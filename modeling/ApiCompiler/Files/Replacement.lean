import ApiCompiler.Action

/-!
# Replacing files

Making directories with all that lead to them, and giving a file a new text in one step: the text is
written to a file beside it, which then takes its place. Where a step fails, the file beside is
removed.
-/

namespace ApiCompiler.Files

/-- A directory that was not made is fine if it is there. -/
def acceptPresent (path : Path) (fault : Fault) : Action (Except Fault Unit) := do
  if ← Action.query (.isDirectory path) then return .ok ()
  return .error fault

def makeLast (path : Path) : Action (Except Fault Unit) := do
  match ← Action.query (.makeDirectory path) with
  | .ok () => return .ok ()
  | .error .absent => return .error .absent
  | .error fault => acceptPresent path fault

/-- Makes the directory of some names, given from the last to the first, and those above it. -/
def makeAlong (anchor : Anchor) : List String → Action (Except Fault Unit)
  | [] => makeLast ⟨anchor, []⟩
  | name :: above => do
    let path : Path := ⟨anchor, (name :: above).reverse⟩
    match ← Action.query (.makeDirectory path) with
    | .ok () => return .ok ()
    | .error .absent =>
      match ← makeAlong anchor above with
      | .ok () => makeLast path
      | .error fault => return .error fault
    | .error fault => acceptPresent path fault

/-- Makes a directory, and those that lead to it, unless it is there. -/
def makeDirectories (path : Path) : Action (Except Fault Unit) :=
  makeAlong path.anchor path.names.reverse

/-- Writes a text to a file, down to the device. -/
def fill (path : Path) (text : String) : ExceptT Fault Action Unit := do
  ExceptT.mk (Action.query (.write path text))
  ExceptT.mk (Action.query (.flush path))
  ExceptT.mk (Action.query (.synchronize path))

/-- Ends the writing of a file and moves it to a path. -/
def settle (temporary path : Path) : ExceptT Fault Action Unit := do
  ExceptT.mk (Action.query (.close temporary))
  ExceptT.mk (Action.query (.replace temporary path))

/-- Removes a file, if it can be removed, and ends with a fault. -/
def discard (temporary : Path) (fault : Fault) : Action (Except Fault Unit) := do
  let _ ← Action.query (.remove temporary)
  return .error fault

/-- Ends the writing of a file that was not filled. What fails then is reported in place of the
fault, and the file stays. -/
def abandon (temporary : Path) (fault : Fault) : Action (Except Fault Unit) := do
  match ← Action.query (.close temporary) with
  | .ok () => discard temporary fault
  | .error later => return .error later

/-- Fills a file and moves it to a path. -/
def fillAndSettle (temporary path : Path) (text : String) :
    Action (Except Fault Unit) := do
  match ← (fill temporary text).run with
  | .error fault => abandon temporary fault
  | .ok () =>
    match ← (settle temporary path).run with
    | .error fault => discard temporary fault
    | .ok () => return .ok ()

/-- Makes a new file beside a path, and the directories that lead there, and goes on with it. -/
def besideFile (path : Path) (work : Path → Action (Except Fault Unit)) :
    Action (Except Fault Unit) := do
  match ← makeDirectories path.parent with
  | .error fault => return .error fault
  | .ok () =>
    match ← Action.query (.createTemporary path.parent s!".{path.name}.") with
    | .error fault => return .error fault
    | .ok temporary => work temporary

/-- Gives a file a text, all of it or, where a step fails, nothing of it. -/
def replaceFile (path : Path) (text : String) : Action (Except Fault Unit) :=
  besideFile path fun temporary => fillAndSettle temporary path text

/-- Gives up replacing a file, for no bytes write the text that it was to hold. -/
def forgoFile (path : Path) (fault : Fault) : Action (Except Fault Unit) :=
  besideFile path fun temporary => abandon temporary fault

end ApiCompiler.Files
