import ApiCompiler.Action
import ApiCompiler.Files

/-!
# Machines

The machine that an action runs on: its files, environment and streams. Steps of writing may fail; a
list says which of those to come do, and a step that fails changes no file.
-/

namespace ApiCompiler

/-- A machine, with what it was given and what was written to it. -/
structure Machine where
  files : Files
  workingDirectory : Files.Place
  environment : List (String × String)
  system : String
  time : Calendar.Moment
  input : Files.Content
  reply : String → Reply
  /-- Whether each of the steps of writing to come fails; those beyond the list do not. -/
  mishaps : List Bool
  output : String
  diagnostics : String

namespace Machine

/-- The outcome of a step on the files. -/
def settle (machine : Machine) (step : Except Files.Fault Files) :
    Except Files.Fault Unit × Machine :=
  match step with
  | .ok files => (.ok (), { machine with files := files })
  | .error fault => (.error fault, machine)

/-- Whether the coming step of writing fails, and the machine after it. -/
def venture (machine : Machine) : Bool × Machine :=
  match machine.mishaps with
  | [] => (false, machine)
  | fails :: rest => (fails, { machine with mishaps := rest })

/-- The outcome of a step of writing. -/
def attempt (machine : Machine) (step : Except Files.Fault Files) :
    Except Files.Fault Unit × Machine :=
  match machine.venture with
  | (true, machine) => (.error .failed, machine)
  | (false, machine) => machine.settle step

def createTemporary (machine : Machine) (directory : Files.Path) (start : String) :
    Except Files.Fault Files.Path × Machine :=
  let path := machine.files.freshPath machine.workingDirectory directory start ".tmp"
  match machine.attempt (machine.files.write machine.workingDirectory path (.text "")) with
  | (.ok (), machine) => (.ok path, machine)
  | (.error fault, machine) => (.error fault, machine)

def emit (machine : Machine) : Stream → String → Machine
  | .output, text => { machine with output := machine.output ++ text }
  | .diagnostics, text => { machine with diagnostics := machine.diagnostics ++ text }

/-- What the machine answers to a query, and the machine after it. -/
def answer (query : Query) (machine : Machine) : query.Answer × Machine :=
  let files := machine.files
  let start := machine.workingDirectory
  match query with
  | .environment name => (machine.environment.lookup name, machine)
  | .system => (machine.system, machine)
  | .workingDirectory => (⟨.root, start⟩, machine)
  | .time => (machine.time, machine)
  | .input => (machine.input.read, machine)
  | .fetch address => (machine.reply address, machine)
  | .isFile path => (files.isFile start path, machine)
  | .isDirectory path => (files.isDirectory start path, machine)
  | .read path => (files.read start path, machine)
  | .makeDirectory path => machine.settle (files.makeDirectory start path)
  | .createTemporary directory name => machine.createTemporary directory name
  | .write path text => machine.attempt (files.write start path (.text text))
  | .flush _ => machine.attempt (.ok files)
  | .synchronize _ => machine.attempt (.ok files)
  | .close _ => machine.attempt (.ok files)
  | .replace source target => machine.attempt (files.replace start source target)
  | .remove path => machine.settle (files.remove start path)
  | .emit stream text => ((), machine.emit stream text)

end Machine

/-- The result of an action on a machine, and the machine after it. -/
def Action.run {α : Type} (action : Action α) (machine : Machine) : α × Machine :=
  action.runWith Machine.answer machine

namespace Action

variable {α β : Type}

@[simp] theorem run_pure (value : α) (machine : Machine) :
    (pure value : Action α).run machine = (value, machine) := rfl

@[simp] theorem run_query (query : Query) (machine : Machine) :
    (Action.query query).run machine = machine.answer query := rfl

@[simp] theorem run_bind (first : Action α) (next : α → Action β) (machine : Machine) :
    (first >>= next).run machine = (next (first.run machine).1).run (first.run machine).2 :=
  runWith_bind Machine.answer first next machine

end Action

end ApiCompiler
