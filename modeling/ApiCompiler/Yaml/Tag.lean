import ApiCompiler.Text.Lines
import ApiCompiler.Yaml.Timestamp

/-!
# Tags

What a node of a YAML document stands for. A plain scalar has no tag of its own: the form of its
text decides.
-/

namespace ApiCompiler.Yaml

open Text

/-- What a node stands for. -/
inductive Tag where
  | null
  | bool
  | int
  | float
  | binary
  | timestamp
  | str
  | seq
  | map
  | set
  | omap
  | pairs
  /-- A key whose value's entries join the mapping around it. -/
  | merge
  /-- A key whose value stands for the mapping around it. -/
  | value
  | unknown
deriving Repr, DecidableEq

namespace Tag

private def lead : String := "tag:yaml.org,2002:"

private def named : List (String × Tag) := [
  ("null", .null), ("bool", .bool), ("int", .int), ("float", .float), ("binary", .binary),
  ("timestamp", .timestamp), ("str", .str), ("seq", .seq), ("map", .map), ("set", .set),
  ("omap", .omap), ("pairs", .pairs), ("merge", .merge), ("value", .value)]

/-- The tag with a given address. -/
def ofAddress (address : String) : Tag :=
  ((named.find? fun entry => lead ++ entry.1 == address).map (·.2)).getD .unknown

def dropSign (text : List Char) : List Char :=
  (takeSign text).2

def isDigitOrMark (character : Char) : Bool :=
  isDigit character || character == '_'

/-- Digits and underscores behind a first digit. -/
def isDigits : List Char → Bool
  | first :: rest => isDigit first && rest.all isDigitOrMark
  | [] => false

def isBaseDigits (base : Nat) (text : List Char) : Bool :=
  !text.isEmpty && text.all fun character => character == '_' || (baseDigit? base character).isSome

/-- One or two digits below sixty. -/
def isSixtieth : List Char → Bool
  | [digit] => isDigit digit
  | [tens, ones] => '0' ≤ tens && tens ≤ '5' && isDigit ones
  | _ => false

/-- Digits, then pieces in base sixty behind colons. -/
def isSexagesimal (text : List Char) : Bool :=
  match splitAt ':' text with
  | first :: piece :: pieces => isDigits first && isSixtieth piece && pieces.all isSixtieth
  | _ => false

/-- A whole number: binary, octal, decimal, hexadecimal or in base sixty. -/
def isInt (text : List Char) : Bool :=
  match dropSign text with
  | ['0'] => true
  | '0' :: 'b' :: digits => isBaseDigits 2 digits
  | '0' :: 'x' :: digits => isBaseDigits 16 digits
  | '0' :: digits => isBaseDigits 8 digits
  | digits => isDigits digits || isSexagesimal digits

def isExponent : List Char → Bool
  | [] => true
  | mark :: sign :: digits =>
    (mark == 'e' || mark == 'E') && (sign == '+' || sign == '-') && !digits.isEmpty &&
      digits.all isDigit
  | _ => false

/-- A number with a point, or one of the infinities, or the undefined number. -/
def isFloat (text : List Char) : Bool :=
  let unsigned := dropSign text
  let whole := unsigned.takeWhile (· != '.')
  match unsigned.drop whole.length with
  | '.' :: rest =>
    let afterDigits := rest.dropWhile isDigitOrMark
    if whole.isEmpty then
      [".inf", ".Inf", ".INF"].any (·.toList == unsigned) ||
        [".nan", ".NaN", ".NAN"].any (·.toList == text) ||
        (text.head? == some '.' && rest.head?.any isDigit && isExponent afterDigits)
    else
      (isDigits whole && isExponent afterDigits) || (isSexagesimal whole && afterDigits.isEmpty)
  | _ => false

def truths : List String := [
  "yes", "Yes", "YES", "no", "No", "NO", "true", "True", "TRUE", "false", "False", "FALSE",
  "on", "On", "ON", "off", "Off", "OFF"]

/-- A day of ten characters, or a day and a time. -/
def isTimestamp (text : List Char) : Bool :=
  match Timestamp.ofText? text with
  | some (.day _) => text.length == 10
  | some (.time _) => true
  | none => false

def dropLastBreak (text : List Char) : List Char :=
  if text.getLast? == some '\n' then text.dropLast else text

/-- The tag that the form of a plain scalar gives; one final line feed does not count. -/
def ofPlain (text : String) : Tag :=
  let form := dropLastBreak text.toList
  let isOne (words : List String) : Bool := words.any (·.toList == form)
  if isOne truths then .bool
  else if isFloat form then .float
  else if isInt form then .int
  else if isOne ["<<"] then .merge
  else if text.isEmpty || isOne ["~", "null", "Null", "NULL"] then .null
  else if isTimestamp form then .timestamp
  else if isOne ["="] then .value
  else if isOne ["!", "&", "*"] then .unknown
  else .str

/-- The tag of a scalar from its address, its text and whether it is plain. -/
def ofScalar (address : Option String) (plain : Bool) (text : String) : Tag :=
  match address with
  | none => if plain then ofPlain text else .str
  | some "!" => ofPlain text
  | some address => ofAddress address

/-- The tag of a collection from its address. -/
def ofCollection (default : Tag) : Option String → Tag
  | none => default
  | some "!" => default
  | some address => ofAddress address

end Tag

end ApiCompiler.Yaml
