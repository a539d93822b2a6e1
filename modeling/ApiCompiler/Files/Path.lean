import ApiCompiler.Text.Lines

/-!
# Paths

The names of files: where a path starts and the names along it. Empty names and single dots are left
out when a path is read; two dots stay, for they mean something only where the files are.
-/

namespace ApiCompiler.Files

/-- Where a path starts. Two leading slashes are kept apart from one; more count as one. -/
inductive Anchor where
  | here
  | root
  | doubleRoot
deriving Repr, DecidableEq

/-- A path by its start and the names along it. -/
structure Path where
  anchor : Anchor
  names : List String
deriving Repr, DecidableEq

namespace Anchor

/-- What a path starts with. -/
def toText : Anchor → String
  | .here => ""
  | .root => "/"
  | .doubleRoot => "//"

/-- The start that leading slashes give. -/
def ofSlashes : Nat → Anchor
  | 0 => .here
  | 2 => .doubleRoot
  | _ => .root

end Anchor

namespace Path

private def isName (name : List Char) : Bool :=
  !name.isEmpty && name != ['.']

/-- The path that a text writes. -/
def ofText (text : String) : Path :=
  let characters := text.toList
  { anchor := .ofSlashes (characters.takeWhile (· == '/')).length
    names := ((Text.splitAt '/' characters).filter isName).map String.ofList }

/-- The path as a text; the empty path is a dot. -/
def toText (path : Path) : String :=
  match path.anchor, path.names with
  | .here, [] => "."
  | anchor, names => anchor.toText ++ String.intercalate "/" names

/-- The path of a name below a path. -/
def child (path : Path) (name : String) : Path :=
  { path with names := path.names ++ [name] }

/-- The path without its last name. -/
def parent (path : Path) : Path :=
  { path with names := path.names.dropLast }

/-- The last name, or nothing. -/
def name (path : Path) : String :=
  path.names.getLast?.getD ""

/-- What follows the last dot of the name, with the dot. Dots at either end of the name do not
count. -/
def suffix (path : Path) : String :=
  let characters := path.name.toList
  let ending := characters.reverse.takeWhile (· != '.')
  if ending.isEmpty || characters.length ≤ ending.length + 1 then ""
  else String.ofList ('.' :: ending.reverse)

/-- Whether a null character is in one of the names. -/
def hasNull (path : Path) : Bool :=
  path.names.any fun name => name.toList.contains '\x00'

end Path

end ApiCompiler.Files
