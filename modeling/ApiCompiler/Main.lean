import ApiCompiler.CommandLine
import ApiCompiler.Files.Content
import Std.Time.Zoned

/-!
# The program

Answers what the command line asks of the machine that the program runs on. The machine is taken for
a Linux system, and addresses are not fetched.
-/

namespace ApiCompiler

open Files (Fault Path)

private def faultOf : IO.Error → Fault
  | .noFileOrDirectory .. => .absent
  | .alreadyExists .. => .taken
  | .permissionDenied .. => .denied
  | .inappropriateType .. => .notDirectory
  | _ => .failed

private def attempt {α : Type} (step : IO α) : IO (Except Fault α) := do
  try
    return .ok (← step)
  catch error =>
    return .error (faultOf error)

private def succeeds {α : Type} (step : IO α) : IO Bool := do
  match ← attempt step with
  | .ok _ => return true
  | .error _ => return false

/-- What can be read is a file, and so is what is not handed out. -/
private def findsFile (path : Path) : IO (Except Fault Bool) := do
  match ← attempt (IO.FS.readBinFile path.toText) with
  | .ok _ => return .ok true
  | .error fault => return .ok (fault == .denied)

private def textOf (content : ByteArray) : Except Fault String :=
  Files.Content.read (.bytes content.toList)

private def readBytes (step : IO ByteArray) : IO (Except Fault String) := do
  match ← attempt step with
  | .ok content => return textOf content
  | .error fault => return .error fault

private def readInput : IO ByteArray := do
  let text ← (← IO.getStdin).readToEnd
  return text.toUTF8

private def now : IO Calendar.Moment := do
  let now ← Std.Time.PlainDateTime.now
  let date : Calendar.Date :=
    ⟨now.date.year.toInt.toNat, now.date.month.toNat, now.date.day.toNat⟩
  return ⟨date, now.time.hour.toNat, now.time.minute.toNat, now.time.second.toNat, 0, none⟩

private def createFile (directory : Path) (start : String) : IO (Except Fault Path) := do
  let number ← IO.rand 0 999999999
  let path := directory.child s!"{start}{number}.tmp"
  attempt do
    let _ ← IO.FS.Handle.mk path.toText .writeNew
    return path

private def sendTo (stream : IO.FS.Stream) (text : String) : IO Unit := do
  stream.putStr text
  stream.flush

/-- The answer of the machine that the program runs on. -/
def Query.perform : (query : Query) → IO query.Answer
  | .environment name => IO.getEnv name
  | .system => return "Linux"
  | .workingDirectory => return Path.ofText (← IO.currentDir).toString
  | .time => now
  | .input => readBytes readInput
  | .fetch _ => return .unreached "addresses are not fetched"
  | .isFile path => findsFile path
  | .isDirectory path => succeeds (IO.FS.realPath (path.child ".").toText)
  | .read path => readBytes (IO.FS.readBinFile path.toText)
  | .makeDirectory path => attempt (IO.FS.createDir path.toText)
  | .createTemporary directory start => createFile directory start
  | .write path text => attempt (IO.FS.writeFile path.toText text)
  | .flush _ => return .ok ()
  | .synchronize _ => return .ok ()
  | .close _ => return .ok ()
  | .replace source target => attempt (IO.FS.rename source.toText target.toText)
  | .remove path => attempt (IO.FS.removeFile path.toText)
  | .emit .output text => do sendTo (← IO.getStdout) text
  | .emit .diagnostics text => do sendTo (← IO.getStderr) text

/-- Performs an action on the machine that the program runs on. -/
def Action.perform {α : Type} : Action α → IO α
  | .done value => return value
  | .ask query next => do (next (← query.perform)).perform

end ApiCompiler

/-- Does what the command line asks for. -/
def main (words : List String) : IO UInt32 := do
  let outcome ← (ApiCompiler.CommandLine.run words).run.perform
  if let .error failure := outcome then
    IO.eprint failure.account
  return (ApiCompiler.CommandLine.exitCode outcome).toUInt32
