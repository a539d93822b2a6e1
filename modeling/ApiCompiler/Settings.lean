import ApiCompiler.Shape

/-!
# Settings

What modules are generated with and how data is shown, read from records. What is given for a run
goes before the environment, the environment before the project's settings, and these before the
user's.
-/

namespace ApiCompiler

open Shape

/-- How data is shown. -/
inductive Format where
  | auto
  | json
  | plain
  | rich
deriving Repr, DecidableEq

namespace Format

def named : List (String × Format) :=
  [("auto", .auto), ("json", .json), ("plain", .plain), ("rich", .rich)]

def ofName? (name : String) : Option Format :=
  named.lookup name

def name : Format → String
  | .auto => "auto"
  | .json => "json"
  | .plain => "plain"
  | .rich => "rich"

theorem ofName?_name (format : Format) : ofName? format.name = some format := by
  cases format <;> decide

end Format

/-- What modules are generated with: the versions that requests send, and where modules go. -/
structure Generation where
  sdkVersion : Option String
  appVersion : Option String
  output : Option String
deriving Repr, DecidableEq

/-- What a project says about each setting: nothing, or what goes before the user's, which may be
that there is none. -/
structure Overrides where
  sdkVersion : Option (Option String)
  appVersion : Option (Option String)
  output : Option (Option String)
deriving Repr, DecidableEq

structure Settings where
  generation : Generation
  format : Format
deriving Repr, DecidableEq

namespace Generation

/-- Nothing is set. -/
def unset : Generation :=
  ⟨none, none, none⟩

def ofRecord : Value → Checked Generation :=
  record fun entries => Generation.mk
    <$> optionalField "sdk_version" text entries
    <*> optionalField "app_version" text entries
    <*> optionalField "output" text entries

end Generation

namespace Overrides

/-- Nothing is said. -/
def silent : Overrides :=
  ⟨none, none, none⟩

/-- What is said under a name. -/
def statement (name : String) (entries : List (Value × Value)) :
    Checked (Option (Option String)) :=
  fieldOr none name (fun value => (optional text value).map some) entries

def ofRecord : Value → Checked Overrides :=
  record fun entries => Overrides.mk
    <$> statement "sdk_version" entries
    <*> statement "app_version" entries
    <*> statement "output" entries

end Overrides

namespace Settings

/-- The settings where nothing is said. -/
def standard : Settings :=
  ⟨.unset, .auto⟩

/-- How a text says that data is shown. -/
def formatOf : Value → Checked Format
  | .str name =>
    match Format.ofName? name with
    | some format => .fits format
    | none => .flaw .notAllowed
  | _ => .flaw .notAllowed

def ofRecord : Value → Checked Settings :=
  record fun entries => Settings.mk
    <$> fieldOr .unset "generation" Generation.ofRecord entries
    <*> fieldOr .auto "output" (record (fieldOr .auto "format" formatOf)) entries

/-- What one setting comes to. An empty text in the environment says nothing. -/
def choose (given environment : Option String) (project : Option (Option String))
    (user : Option String) : Option String :=
  match given, environment with
  | some value, _ => some value
  | none, some "" => project.getD user
  | none, some value => some value
  | none, none => project.getD user

/-- What all settings of generation come to. -/
def layer (given environment : Generation) (project : Overrides)
    (user : Generation) : Generation where
  sdkVersion := choose given.sdkVersion environment.sdkVersion project.sdkVersion user.sdkVersion
  appVersion := choose given.appVersion environment.appVersion project.appVersion user.appVersion
  output := choose given.output environment.output project.output user.output

theorem choose_given (value : String) (environment : Option String)
    (project : Option (Option String))
    (user : Option String) : choose (some value) environment project user = some value := rfl

end Settings

end ApiCompiler
