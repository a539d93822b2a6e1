import ApiCompiler.Text.Digit
import ApiCompiler.Text.Lowercase

/-!
# Names in generated code

Argument names and function names made from the names of a description. A name is cut into words
where its letters change case, lower-cased, reduced to letters, digits and single inner underscores,
and repaired where it would be empty, start with a digit or be a keyword.
-/

namespace ApiCompiler.Naming

open Text (isDigit)

def isUpper (character : Char) : Bool :=
  'A' ≤ character && character ≤ 'Z'

def isLower (character : Char) : Bool :=
  'a' ≤ character && character ≤ 'z'

/-- The characters that stay in a name. -/
def isNameCharacter (character : Char) : Bool :=
  isUpper character || isLower character || isDigit character || character == '_'

/-- An underscore between a small letter or digit and a capital. -/
def cutBeforeCapital : List Char → List Char
  | left :: right :: rest =>
    if (isLower left || isDigit left) && isUpper right then
      left :: '_' :: right :: cutBeforeCapital rest
    else left :: cutBeforeCapital (right :: rest)
  | rest => rest

/-- An underscore before the last of several capitals where a small letter follows. -/
def cutAcronym (capitals : List Char) : List Char → List Char
  | [] => capitals.reverse
  | character :: rest =>
    if isUpper character then cutAcronym (character :: capitals) rest
    else match capitals with
      | last :: earlier :: capitals =>
        if isLower character then
          (earlier :: capitals).reverse ++ '_' :: last :: character :: cutAcronym [] rest
        else (last :: earlier :: capitals).reverse ++ character :: cutAcronym [] rest
      | capitals => capitals.reverse ++ character :: cutAcronym [] rest

/-- An underscore in place of every other character. -/
def replaceOthers (name : List Char) : List Char :=
  name.map fun character => if isNameCharacter character then character else '_'

/-- One underscore in place of several. -/
def collapse : List Char → List Char
  | '_' :: '_' :: rest => collapse ('_' :: rest)
  | character :: rest => character :: collapse rest
  | [] => []

/-- Drops the underscores at both ends. -/
def trimUnderscores (name : List Char) : List Char :=
  ((name.dropWhile (· == '_')).reverse.dropWhile (· == '_')).reverse

/-- The words of a name, lower-cased and joined by single underscores. -/
def wordsJoined (name : List Char) : List Char :=
  trimUnderscores
    (collapse (replaceOthers (Text.lowercase (cutAcronym [] (cutBeforeCapital name)))))

/-- The words that the generated language keeps for itself. -/
def keywords : List String := [
  "False", "None", "True", "and", "as", "assert", "async", "await", "break", "class", "continue",
  "def", "del", "elif", "else", "except", "finally", "for", "from", "global", "if", "import", "in",
  "is", "lambda", "nonlocal", "not", "or", "pass", "raise", "return", "try",
    "while", "with", "yield"]

/-- A name for what has none. -/
def nameOrDefault (name : List Char) : List Char :=
  if name.isEmpty then "param".toList else name

/-- An underscore in front of a digit. -/
def guardDigit : List Char → List Char
  | [] => []
  | first :: rest => if isDigit first then '_' :: first :: rest else first :: rest

/-- An underscore after a keyword. -/
def guardKeyword (name : List Char) : List Char :=
  if keywords.contains (String.ofList name) then name ++ ['_'] else name

/-- The argument that a parameter name gives. -/
def argumentName (name : String) : String :=
  String.ofList (guardKeyword (guardDigit (nameOrDefault (wordsJoined name.toList))))

/-- The names that a generated module uses itself. -/
def moduleNames : List String := [
  "clean_headers", "clean_query", "dispatch", "merge_headers", "functools", "httpx",
  "ordered_compare", "require_parameter", "send_request", "sort_ordered", "dict", "isinstance",
  "list", "sorted", "str", "super", "tuple"]

/-- The function that an operation's identifier gives. -/
def functionName (operationId : String) : String :=
  let name := argumentName operationId
  if moduleNames.contains name then name ++ "_" else name

end ApiCompiler.Naming
