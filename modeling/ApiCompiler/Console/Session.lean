import ApiCompiler.Console
import ApiCompiler.Work

/-!
# Sessions

What is written for data, remarks and records by the console in use. Data goes to the output stream
alone, remarks and records to the diagnostics alone. Notices that work leaves are written as
records.
-/

namespace ApiCompiler

/-- What is written to a console. -/
inductive Item where
  | data (text : String)
  /-- The text of a module, to be written as it is. -/
  | source (text : String)
  | json (value : Value)
  | table (headers : List String) (rows : List (List String))
  | remark (tone : Tone) (text : String)
  | record (channel : String) (level : Level) (text : String)
deriving Repr

/-- What goes to each of the streams. -/
structure Written where
  output : String
  diagnostics : String
deriving Repr, DecidableEq

/-- The console in use, and the one that records go to, if any is to show them. -/
structure Session where
  console : Console
  recorder : Option Console
deriving Repr, DecidableEq

namespace Session

/-- Nothing is set up. -/
def start : Session :=
  ⟨.standard, none⟩

/-- Uses a console for all that follows. -/
def install (console : Console) : Session :=
  ⟨console, some console⟩

/-- Uses no console that was set up; records still go where they went. -/
def reset (session : Session) : Session :=
  { session with console := .standard }

/-- Whether a channel is the program's. -/
def isOwnChannel (channel : String) : Bool :=
  channel == programName || channel.startsWith (programName ++ ".")

/-- The console that was set up for the records of a channel, if any was. -/
def recorderOf (session : Session) (channel : String) : Option Console :=
  if isOwnChannel channel then session.recorder else none

/-- The text of a record. Where no console was set up for its channel, a grave record is still
shown, as nothing but its text. -/
def record (session : Session) (channel : String) (level : Level) (text : String) : String :=
  match session.recorderOf channel with
  | some console => if console.records level then s!"{level.name} {channel}: {text}\n" else ""
  | none => if level.isGrave then text ++ "\n" else ""

/-- What an item writes. -/
def write (session : Session) : Item → Except Misuse Written
  | .data text => .ok ⟨Console.endLine text, ""⟩
  | .source text => .ok ⟨text, ""⟩
  | .json value => (Console.indented value).map fun text => ⟨text, ""⟩
  | .table headers rows => (session.console.table headers rows).map fun text => ⟨text, ""⟩
  | .remark tone text => .ok ⟨"", session.console.remark tone text⟩
  | .record channel level text => .ok ⟨"", session.record channel level text⟩

/-- Writes an item. -/
def put (session : Session) (item : Item) : Work Unit := do
  let written ← Work.ofResult ((session.write item).mapError .misuse)
  Work.query (.emit .output written.output)
  Work.query (.emit .diagnostics written.diagnostics)

/-- The result of work, after its notices are recorded. -/
def report {α : Type} (session : Session) (work : Logged α) : Work α := do
  work.notices.forM fun notice =>
    session.put (.record notice.channel notice.level notice.message)
  Work.ofResult work.result

end Session

end ApiCompiler
