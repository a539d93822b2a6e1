import ApiCompiler.Calendar
import ApiCompiler.Files.Fault
import ApiCompiler.Files.Path

/-!
# Actions

What a program does on the machine that it runs on: it asks a question, goes on with the answer, and
ends with a result. How the questions are answered is left open here.
-/

namespace ApiCompiler

/-- The name that the program is called by, and that its directories and records bear. -/
def programName : String := "specsdk"

def programVersion : String := "0.1.0"

/-- The streams that a program writes to. -/
inductive Stream where
  | output
  | diagnostics
deriving Repr, DecidableEq

/-- What comes back from an address. -/
inductive Reply where
  | answered (status : Nat) (contentType : String) (content : List UInt8)
  | unreached (reason : String)
deriving Repr, DecidableEq

/-- What a program asks of its machine. -/
inductive Query where
  | environment (name : String)
  | system
  | workingDirectory
  | time
  | input
  | fetch (address : String)
  | isFile (path : Files.Path)
  | isDirectory (path : Files.Path)
  | read (path : Files.Path)
  | makeDirectory (path : Files.Path)
  /-- A new file in a directory, with a name that nothing there has and that starts as given. -/
  | createTemporary (directory : Files.Path) (start : String)
  | write (path : Files.Path) (text : String)
  | flush (path : Files.Path)
  | synchronize (path : Files.Path)
  | close (path : Files.Path)
  | replace (source target : Files.Path)
  | remove (path : Files.Path)
  | emit (stream : Stream) (text : String)

/-- What a machine answers to each query. -/
abbrev Query.Answer : Query → Type
  | .environment _ => Option String
  | .system => String
  | .workingDirectory => Files.Path
  | .time => Calendar.Moment
  | .input => Except Files.Fault String
  | .fetch _ => Reply
  | .isFile _ => Except Files.Fault Bool
  | .isDirectory _ => Bool
  | .read _ => Except Files.Fault String
  | .makeDirectory _ => Except Files.Fault Unit
  | .createTemporary .. => Except Files.Fault Files.Path
  | .write .. => Except Files.Fault Unit
  | .flush _ => Except Files.Fault Unit
  | .synchronize _ => Except Files.Fault Unit
  | .close _ => Except Files.Fault Unit
  | .replace .. => Except Files.Fault Unit
  | .remove _ => Except Files.Fault Unit
  | .emit .. => Unit

/-- What a program does: it ends, or asks and goes on with the answer. -/
inductive Action (α : Type) where
  | done (value : α)
  | ask (query : Query) (next : query.Answer → Action α)

namespace Action

variable {α β : Type}

protected def bind : Action α → (α → Action β) → Action β
  | .done value, next => next value
  | .ask query rest, next => .ask query fun answer => (rest answer).bind next

instance : Monad Action where
  pure := .done
  bind := Action.bind

/-- Asks one question. -/
def query (query : Query) : Action query.Answer :=
  .ask query .done

/-- Writes to a stream. -/
def write (stream : Stream) (text : String) : Action Unit :=
  query (.emit stream text)

/-- The outcome of an action whose questions someone answers, step by step, in a state. -/
def runWith {State : Type} (answer : (query : Query) → State → query.Answer × State) :
    Action α → State → α × State
  | .done value, state => (value, state)
  | .ask query next, state =>
    let (reply, state) := answer query state
    (next reply).runWith answer state

theorem runWith_bind {State : Type} (answer : (query : Query) → State → query.Answer × State)
    (first : Action α) (next : α → Action β) (state : State) :
    (first >>= next).runWith answer state =
      (next (first.runWith answer state).1).runWith answer (first.runWith answer state).2 := by
  induction first generalizing state with
  | done value => rfl
  | ask query rest induction => exact induction _ _

end Action

end ApiCompiler
