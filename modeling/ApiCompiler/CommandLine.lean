import ApiCompiler.CommandLine.Command
import ApiCompiler.CommandLine.Generate
import ApiCompiler.CommandLine.Inspect

/-!
# The command line

What the program does for a command line, and how it ends. Those who ask how it is used, or use it
otherwise, are told. Foreseen failures are told as errors; for all others a record is left among the
program's data, and its path is told. Only where no record can be left does the failure to leave it
remain.
-/

namespace ApiCompiler.CommandLine

open Files (Path)

private def lines (texts : List String) : String :=
  String.join (texts.map (· ++ "\n"))

private def summary : String :=
  s!"Usage: {programName} [FLAGS] generate|inspect SPEC [FLAGS]"

/-- How the program is used. -/
def helpText : String :=
  lines [
    summary,
    "",
    "Flags before the command:",
    "  --version             show the version",
    "  --json, --plain       the format of data",
    "  --no-color            use no colors",
    "  -q, --quiet           withhold what only informs",
    "  -v, --verbose         show what helps to find errors",
    "",
    "Flags of both commands:",
    "  --sdk-version TEXT    the value of the X-SDK-Version header",
    "  --app-version TEXT    the value of the X-APP-Version header",
    "",
    "Flags of generate:",
    "  -o, --output PATH     the file to write, or - for the output",
    "  --check               fail if the file is not up to date",
    "",
    "SPEC is the path of an OpenAPI document, its address, or - for the input."]

/-- What is told where the program is not used as it is meant. -/
def usageText : String :=
  lines [summary, s!"Try '{programName} --help' for help."]

/-- The session that the flags of the program ask for. Where they name no format, the user's
settings do. -/
def openSession (manner : Manner) : Work Session := do
  let format ←
    if manner.json then pure Format.json
    else if manner.plain then pure Format.plain
    else Settings.format <$> Settings.readUser
  return .install (.ofFormat format manner.quiet manner.verbose)

/-- Does what a command is to do. -/
def execute (session : Session) : Command → Work Exit
  | .help => do
    Work.query (.emit .output helpText)
    return .success
  | .misuse => do
    Work.query (.emit .diagnostics usageText)
    return .usage
  | .generate source given check => generate session source given check
  | .inspect source versions => inspect session source versions

/-- Leaves a record of an unforeseen failure, and gives its path. -/
def recordFailure (failure : Failure) : Work Path := do
  let records := (← Settings.dataDirectory).child "logs"
  Work.onFiles (Files.makeDirectories records)
  let stamp := (← Work.query .time).stamp
  let path := records.child s!"crash-{stamp}.log"
  Work.onFiles (Action.query (.write path failure.account))
  return path

private def tellError (message : String) : Work Unit :=
  Work.query (.emit .diagnostics (Console.standard.remark .error message))

/-- Tells of a failure, and ends. -/
def concludeFailure (failure : Failure) : Work Exit := do
  match failure.message? with
  | some message => tellError message
  | none =>
    let path ← recordFailure failure
    tellError s!"Unexpected error. Debug log: {path.toText}"
  return failure.exit

/-- Does some work and ends as it ends. -/
def conclude (work : Work Exit) : Work Exit :=
  tryCatch work concludeFailure

private def tell (stream : Stream) (text : String) (exit : Exit) : Work Exit := do
  Work.query (.emit stream text)
  return exit

/-- The number that a run ends with. A failure that could not be recorded counts as a failure. -/
def exitCode : Except Failure Exit → Nat
  | .ok exit => exit.code
  | .error _ => Exit.failure.code

/-- Does what a command line asks for. -/
def run (words : List String) : Work Exit :=
  match Opening.ofWords words with
  | .nothing => tell .output helpText .usage
  | .help => tell .output helpText .success
  | .version => tell .output s!"{programName} {programVersion}\n" .success
  | .misuse => tell .diagnostics usageText .usage
  | .command manner name words => conclude do
    execute (← openSession manner) (Command.ofWords name words)

end ApiCompiler.CommandLine
