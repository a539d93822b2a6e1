import ApiCompiler.Files.Replacement
import ApiCompiler.Json.Reader
import ApiCompiler.Settings
import ApiCompiler.Work

/-!
# Reading settings

The settings of the user and of the project, each in a file that may be absent, and what they come
to with the environment and with what is given for a run. Some systems name the directories for
settings and data in the environment; on the others, and where nothing is named, they lie in the
user's own directory. Both are made when they are asked for.
-/

namespace ApiCompiler.Settings

open Files (Path)

/-- Whether the directories of a system are named in the environment. -/
def namesDirectories (system : String) : Bool :=
  system == "Linux" || system.endsWith "BSD"

/-- The user's own directory, or the root where none is named. A tilde is no directory's name
here. -/
def homeDirectory : Work Path := do
  let home := (← Work.query (.environment "HOME")).getD ""
  if home.all (· == '/') then return ⟨.root, []⟩
  if home.startsWith "~" then throw .noHome
  return Path.ofText home

/-- The directory that the environment names, or one below the user's own. -/
def namedDirectory (name : String) (below : List String) : Work Path := do
  let named := (← Work.query (.environment name)).getD ""
  if named.isEmpty then return below.foldl Path.child (← homeDirectory)
  return Path.ofText named

def hiddenName : String :=
  "." ++ programName

def made (path : Path) : Work Path := do
  Work.onFiles (Files.makeDirectories path)
  return path

/-- The directory of the user's settings. -/
def configDirectory : Work Path := do
  if namesDirectories (← Work.query .system) then
    made ((← namedDirectory "XDG_CONFIG_HOME" [".config"]).child programName)
  else made ((← homeDirectory).child hiddenName)

/-- The directory of the program's data. -/
def dataDirectory : Work Path := do
  if namesDirectories (← Work.query .system) then
    made ((← namedDirectory "XDG_DATA_HOME" [".local", "share"]).child programName)
  else made (((← homeDirectory).child hiddenName).child "logs")

/-- The value that a text of settings writes. The file to be written may be named there. -/
def parse (text : String) : Except Json.Fault Value :=
  @Json.read .forNames text

/-- The value that a file of settings holds, if the file is there. -/
def readFile? (owner : Owner) (path : Path) : Work (Option Value) := do
  unless ← Work.onFiles (Action.query (.isFile path)) do return none
  match ← Work.query (.read path) with
  | .error (.notText fault) => throw (.settings (.notText owner path fault))
  | .error fault => throw (.files fault)
  | .ok text =>
    match parse text with
    | .ok value => return some value
    | .error fault => throw (.settings (.notJson owner path fault))

/-- The user's settings. -/
def readUser : Work Settings := do
  let path := (← configDirectory).child "config.json"
  match ← readFile? .user path with
  | none => return standard
  | some value =>
    match ofRecord value with
    | .fits settings => return settings
    | .flawed complaints => throw (.settings (.flawed path complaints))

/-- What the project in the working directory says, if it says anything. -/
def readProject : Work (Option (List (Value × Value))) := do
  let path := (← Work.query .workingDirectory).child s!"{programName}.json"
  match ← readFile? .project path with
  | none => return none
  | some (.map entries) => return some entries
  | some _ => throw (.settings (.notMapping path))

/-- What a project says about the generation of modules. -/
def overridesOf (project : List (Value × Value)) : Except Fault Overrides :=
  let generation := (Value.field? project "generation").getD .null
  match generation.orElse (.map []) with
  | .map entries =>
    match Overrides.ofRecord (.map entries) with
    | .fits overrides => .ok overrides
    | .flawed complaints => .error (.generationFlawed complaints)
  | _ => .error .generationNotMapping

/-- What the environment says about the generation of modules. -/
def readEnvironment : Work Generation :=
  return {
    sdkVersion := ← Work.query (.environment "SPECSDK_SDK_VERSION")
    appVersion := ← Work.query (.environment "SPECSDK_APP_VERSION")
    output := ← Work.query (.environment "SPECSDK_OUTPUT") }

/-- The settings of a run for which some are given. -/
def effective (given : Generation) : Work Settings := do
  let user ← readUser
  let project ← readProject
  let overrides ← Work.ofResult ((overridesOf (project.getD [])).mapError .settings)
  return { user with
    generation := layer given (← readEnvironment) overrides user.generation }

end ApiCompiler.Settings
