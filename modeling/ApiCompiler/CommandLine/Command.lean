import ApiCompiler.CommandLine.Flags
import ApiCompiler.Plan
import ApiCompiler.Settings

/-!
# Commands

What a command line asks for: first the flags of the program and the name of a command, then the
command's own flags and words.
-/

namespace ApiCompiler.CommandLine

inductive CommandName where
  | generate
  | inspect
deriving Repr, DecidableEq

def CommandName.ofName? : String → Option CommandName
  | "generate" => some .generate
  | "inspect" => some .inspect
  | _ => none

/-- The flags of the program. -/
structure Manner where
  json : Bool
  plain : Bool
  quiet : Bool
  verbose : Bool
deriving Repr, DecidableEq

/-- What a command line asks for before the command reads its own words. -/
inductive Opening where
  /-- Nothing is asked at all. -/
  | nothing
  | help
  | version
  | misuse
  | command (manner : Manner) (name : CommandName) (words : List String)
deriving Repr, DecidableEq

private def helpFlag : Flag :=
  ⟨"--help", none, false⟩

private def versionFlag : Flag :=
  ⟨"--version", none, false⟩

/-- The flags that stand before a command. -/
def mannerFlags : List Flag := [versionFlag, ⟨"--json", none, false⟩, ⟨"--plain", none, false⟩,
  ⟨"--no-color", none, false⟩, ⟨"--quiet", some 'q', false⟩,
  ⟨"--verbose", some 'v', false⟩, helpFlag]

private def mannerOf (reading : Reading) : Manner where
  json := reading.has "--json"
  plain := reading.has "--plain"
  quiet := reading.has "--quiet"
  verbose := reading.has "--verbose"

/-- The first of the flags that are answered at once. -/
private def answeredAtOnce (reading : Reading) : Option Opening :=
  reading.flags.findSome? fun (name, _) =>
    if name == helpFlag.name then some .help
    else if name == versionFlag.name then some .version
    else none

/-- What the words ask for that are to name a command but do not. Two dashes before them do not keep
them from being read as flags here. -/
private def unnamed (words : List String) : Opening :=
  ((read mannerFlags false words).bind answeredAtOnce).getD .misuse

private def ofReading (reading : Reading) : Opening :=
  match answeredAtOnce reading, reading.words with
  | some opening, _ => opening
  | none, [] => .misuse
  | none, name :: words =>
    match CommandName.ofName? name with
    | some named => .command (mannerOf reading) named words
    | none => unnamed (name :: words)

/-- What a command line asks for first. -/
def Opening.ofWords (words : List String) : Opening :=
  if words.isEmpty then .nothing
  else match read mannerFlags false words with
    | some reading => ofReading reading
    | none => .misuse

/-- What a command is to do. -/
inductive Command where
  | help
  | misuse
  | generate (source : String) (given : Generation) (check : Bool)
  | inspect (source : String) (versions : Versions)
deriving Repr, DecidableEq

private def versionFlags : List Flag :=
  [⟨"--sdk-version", none, true⟩, ⟨"--app-version", none, true⟩, helpFlag]

/-- The flags of a command. -/
def commandFlags : CommandName → List Flag
  | .generate => [⟨"--output", some 'o', true⟩, ⟨"--check", none, false⟩] ++ versionFlags
  | .inspect => versionFlags

private def commandOf (name : CommandName) (source : String) (reading : Reading) : Command :=
  let versions : Versions := ⟨reading.value? "--sdk-version", reading.value? "--app-version"⟩
  match name with
  | .generate => .generate source ⟨versions.sdk, versions.app, reading.value? "--output"⟩
      (reading.has "--check")
  | .inspect => .inspect source versions

/-- What a command is to do by its own words, one of which has to name the document. -/
def Command.ofWords (name : CommandName) (words : List String) : Command :=
  match read (commandFlags name) true words with
  | none => .misuse
  | some reading =>
    if reading.has helpFlag.name then .help
    else match reading.words with
      | [source] => commandOf name source reading
      | _ => .misuse

end ApiCompiler.CommandLine
