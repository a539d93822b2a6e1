import ApiCompiler.Console.Session
import ApiCompiler.Description.Extraction
import ApiCompiler.Document.Source
import ApiCompiler.Module.Assembly
import ApiCompiler.Settings.Reader

/-!
# Generating modules

Writes the module of a document to a file or to the output, or checks that a file holds it. A module
that has no spelling is in no file, and none is written.
-/

namespace ApiCompiler.CommandLine

open Files (Path)

/-- The target that stands for the output. -/
def outputTarget : String := "-"

/-- Where a module goes. -/
def targetOf (generation : Generation) : String :=
  match generation.output with
  | none => outputTarget
  | some "" => outputTarget
  | some target => target

/-- Reads the file of a target, if there is one. -/
def currentOf (target : String) : Work (Option String) := do
  if ← Work.onFiles (Action.query (.isFile (.ofText target))) then
    some <$> Work.onFiles (Action.query (.read (.ofText target)))
  else pure none

/-- Tells that a file does not hold the module of a document. -/
def tellOutdated (session : Session) (source target : String) : Work Exit := do
  session.put (.remark .error s!"{target} is out of date with {source}")
  session.put (.remark .suggestion s!"Run: {programName} generate {source} -o {target}")
  return .outdated

/-- Compares a module with what its file holds. -/
def checkModule (session : Session) (source target : String) (description : Description)
    (text : String) : Work Exit := do
  if (← currentOf target) = some text then
    let count := description.operations.length
    session.put (.remark .success s!"{target} is up to date ({count} operations)")
    return .success
  tellOutdated session source target

/-- Puts a module in place of what its file holds. -/
def writeModule (session : Session) (target : String) (description : Description)
    (text : String) : Work Exit := do
  Work.onFiles (Files.replaceFile (Path.ofText target) text)
  let info := description.info
  session.put (.remark .info s!"{info.title} {info.version}")
  let count := description.operations.length
  session.put (.remark .success s!"Wrote {count} operations to {target}")
  return .success

/-- Writes or checks a module that has a spelling. -/
def place (check : Bool) (session : Session) (source target : String) (description : Description)
    (text : String) : Work Exit := do
  if check then checkModule session source target description text
  else if target == outputTarget then
    session.put (.source text)
    return .success
  else writeModule session target description text

/-- Writes or checks a module that has none. -/
def forgo (check : Bool) (session : Session) (source target : String) (fault : Files.Fault) :
    Work Exit := do
  if check then
    let _ ← currentOf target
    tellOutdated session source target
  else if target == outputTarget then throw (.files fault)
  else
    Work.onFiles (Files.forgoFile (Path.ofText target) fault)
    throw (.files fault)

/-- What becomes of the module of a document. -/
def finish (check : Bool) (session : Session) (source target : String) (description : Description)
    (draft : Except Files.Fault String) : Work Exit :=
  match draft with
  | .ok text => place check session source target description text
  | .error fault => forgo check session source target fault

/-- Writes or checks the module of a document. -/
def generate (session : Session) (source : String) (given : Generation) (check : Bool) :
    Work Exit := do
  let generation := (← Settings.effective given).generation
  let target := targetOf generation
  if check && target == outputTarget then throw .nothingToCheck
  session.put (.remark .debug s!"Loading spec from: {source}")
  let document ← session.report (← ExceptT.lift (Document.load source))
  let description ← session.report (Description.ofDocument document)
  let text ← session.report
    (Module.assemble description ⟨generation.sdkVersion, generation.appVersion⟩)
  finish check session source target description (document.spelled text)

end ApiCompiler.CommandLine
