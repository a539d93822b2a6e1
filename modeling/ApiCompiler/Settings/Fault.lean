import ApiCompiler.Files.Path
import ApiCompiler.Json.Fault
import ApiCompiler.Shape
import ApiCompiler.Text.Utf8

/-!
# Faults of settings

Why a file of settings is not read, and the words for it.
-/

namespace ApiCompiler.Settings

/-- Whose settings a file holds. -/
inductive Owner where
  | user
  | project
deriving Repr, DecidableEq

/-- What is wrong with settings. -/
inductive Fault where
  | notText (owner : Owner) (path : Files.Path) (fault : Text.Utf8.Fault)
  | notJson (owner : Owner) (path : Files.Path) (fault : Json.Fault)
  | flawed (path : Files.Path) (complaints : List Complaint)
  /-- A project's file holds something else than a mapping. -/
  | notMapping (path : Files.Path)
  | generationNotMapping
  | generationFlawed (complaints : List Complaint)
deriving Repr

/-- The word for an owner. -/
def Owner.word : Owner → String
  | .user => "global"
  | .project => "project"

private def invalidFile (owner : Owner) (path : Files.Path) (reason : String) : String :=
  s!"Invalid {owner.word} config at {path.toText}: {reason}"

/-- The number of complaints about a record. -/
private def complaintCount (complaints : List Complaint) (record : String) : String :=
  let noun := if complaints.length = 1 then "error" else "errors"
  s!"{complaints.length} validation {noun} for {record}"

/-- The words for a fault. -/
def Fault.message : Fault → String
  | .notText owner path fault => invalidFile owner path fault.message
  | .notJson owner path fault => invalidFile owner path fault.message
  | .flawed path complaints => invalidFile .user path (complaintCount complaints "GlobalConfig")
  | .notMapping path => invalidFile .project path "expected a JSON object"
  | .generationNotMapping => "Project config 'generation' must be an object"
  | .generationFlawed complaints =>
    "Invalid project generation settings: " ++ complaintCount complaints "GenerationConfig"

end ApiCompiler.Settings
