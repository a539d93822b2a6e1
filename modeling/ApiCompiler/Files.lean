import ApiCompiler.Files.Content
import ApiCompiler.Files.Path

/-!
# Files

Directories and files by the names that lead to them from the root, which is always a directory.
Each step on them gives new ones or says why it fails. Names and paths have a greatest length,
counted in bytes.
-/

namespace ApiCompiler

namespace Files

/-- The names that lead from the root to a directory or file. -/
abbrev Place := List String

/-- What has a place. -/
inductive Node where
  | directory
  | file (content : Content)
deriving Repr, DecidableEq

end Files

/-- What has each place below the root. -/
structure Files where
  nodes : List (Files.Place × Files.Node)
deriving Repr

namespace Files

/-- No files, and no directory but the root. -/
def empty : Files :=
  ⟨[]⟩

/-- What has a place, if anything does. -/
def at? (files : Files) (place : Place) : Option Node :=
  if place = [] then some .directory else files.nodes.lookup place

/-- Nothing has the place any more. -/
def erase (files : Files) (place : Place) : Files :=
  ⟨files.nodes.filter (·.1 != place)⟩

/-- The place gets what it is to hold. -/
def put (files : Files) (place : Place) (node : Node) : Files :=
  ⟨(place, node) :: (files.erase place).nodes⟩

/-- The most bytes of a name. -/
def nameLimit : Nat := 255

/-- The most bytes of a path. -/
def pathLimit : Nat := 4095

def enter (files : Files) (place : Place) (name : String) : Except Fault Place :=
  match files.at? place with
  | some .directory =>
    if name = ".." then .ok place.dropLast
    else if nameLimit < name.utf8ByteSize then .error .tooLong
    else .ok (place ++ [name])
  | some (.file _) => .error .notDirectory
  | none => .error .absent

/-- Where a path leads from a place. All of its names but the last are those of directories; two
dots lead to the directory above, and above the root is the root. -/
def resolve (files : Files) (start : Place) (path : Path) : Except Fault Place :=
  if path.hasNull then .error .notPath
  else if pathLimit < path.toText.utf8ByteSize then .error .tooLong
  else path.names.foldlM files.enter (if path.anchor = .here then start else [])

/-- What has a path. -/
def find (files : Files) (start : Place) (path : Path) : Except Fault Node := do
  match files.at? (← files.resolve start path) with
  | some node => .ok node
  | none => .error .absent

/-- Whether a path is that of a file. Whether a path is too long is not known before it is tried. -/
def isFile (files : Files) (start : Place) (path : Path) : Except Fault Bool :=
  match files.find start path with
  | .ok (.file _) => .ok true
  | .error .tooLong => .error .tooLong
  | _ => .ok false

/-- Whether a path is that of a directory. -/
def isDirectory (files : Files) (start : Place) (path : Path) : Bool :=
  match files.find start path with
  | .ok .directory => true
  | _ => false

/-- The text of a file. -/
def read (files : Files) (start : Place) (path : Path) : Except Fault String := do
  match ← files.find start path with
  | .file content => content.read
  | .directory => .error .isDirectory

/-- Makes a directory in one that is there. -/
def makeDirectory (files : Files) (start : Place) (path : Path) : Except Fault Files := do
  let place ← files.resolve start path
  match files.at? place with
  | some _ => .error .taken
  | none => .ok (files.put place .directory)

/-- Writes the whole of a file, be it new or not, in a directory that is there. -/
def write (files : Files) (start : Place) (path : Path) (content : Content) :
    Except Fault Files := do
  let place ← files.resolve start path
  match files.at? place with
  | some .directory => .error .isDirectory
  | _ => .ok (files.put place (.file content))

/-- Removes a file. -/
def remove (files : Files) (start : Place) (path : Path) : Except Fault Files := do
  let place ← files.resolve start path
  match files.at? place with
  | some (.file _) => .ok (files.erase place)
  | some .directory => .error .isDirectory
  | none => .error .absent

/-- Moves a file to another path, where it takes the place of any file. The path has to end with a
name. -/
def replace (files : Files) (start : Place) (source target : Path) : Except Fault Files := do
  let origin ← files.resolve start source
  match files.at? origin with
  | none => .error .absent
  | some .directory => .error .isDirectory
  | some (.file content) =>
    let _ ← files.resolve start target
    if target.name = "" || target.name = ".." then throw .busy
    (files.erase origin).write start target content

/-- Eight digits. -/
def markOf (number : Nat) : String :=
  let digits := Nat.toDigits 10 number
  String.ofList (List.replicate (8 - digits.length) '0' ++ digits)

/-- A path in a directory that nothing has, its name between a start and an ending. Among one more
paths than there are files, one is free. -/
def freshPath (files : Files) (start : Place) (directory : Path) (opening ending : String) : Path :=
  let path (number : Nat) := directory.child (opening ++ markOf number ++ ending)
  let isFree (path : Path) := match files.find start path with
    | .ok _ => false
    | .error _ => true
  (((List.range (files.nodes.length + 1)).map path).find? isFree).getD (path 0)

/-- The files with one more, and with the directories that lead to it. -/
def withFile (files : Files) (place : Place) (content : Content) : Files :=
  let above := (List.range place.length).map place.take
  let led := above.foldl (fun files directory =>
    if (files.at? directory).isNone then files.put directory .directory else files) files
  led.put place (.file content)

end Files

end ApiCompiler
