import ApiCompiler.Calendar
import ApiCompiler.Decimal.Binary64

/-!
# Values

The dynamic values that documents hold and calls pass. Mappings keep the order of their keys. Two
keys are the same if they are equal numbers of whatever kind, equal texts, or tuples of such. The
undefined number equals none, so a mapping may hold it under several keys.
-/

namespace ApiCompiler

/-- A value of a document or of a call. -/
inductive Value where
  | null
  | bool (value : Bool)
  | int (value : Int)
  | float (value : Binary64)
  | str (text : String)
  | bytes (content : List UInt8)
  | date (day : Calendar.Date)
  | datetime (moment : Calendar.Moment)
  | list (items : List Value)
  | tuple (items : List Value)
  | set (members : List Value)
  | map (entries : List (Value × Value))
deriving Repr, Inhabited

/-- The exact size of a number. -/
inductive Size where
  | undefined
  | negativeInfinity
  | exact (value : Rat)
  | infinity
deriving Repr, DecidableEq

namespace Size

/-- Equality of numbers; the undefined number equals none. -/
def equals : Size → Size → Bool
  | .exact left, .exact right => left == right
  | .negativeInfinity, .negativeInfinity => true
  | .infinity, .infinity => true
  | _, _ => false

/-- The order of numbers; the undefined number is below none and above none. -/
def below : Size → Size → Bool
  | .exact left, .exact right => left < right
  | .negativeInfinity, .exact _ => true
  | .negativeInfinity, .infinity => true
  | .exact _, .infinity => true
  | _, _ => false

end Size

/-- The exact size of a number of the 64-bit format. -/
def Binary64.size : Binary64 → Size
  | .nan => .undefined
  | .infinite true => .negativeInfinity
  | .infinite false => .infinity
  | .finite negative significand exponent => .exact (toRat negative significand exponent)

namespace Value

/-- The size of a number or truth value. -/
def size? : Value → Option Size
  | .bool value => some (.exact (if value then 1 else 0))
  | .int value => some (.exact value)
  | .float value => some value.size
  | _ => none

/-- The name of a value's kind. -/
def kind : Value → String
  | .null => "NoneType"
  | .bool _ => "bool"
  | .int _ => "int"
  | .float _ => "float"
  | .str _ => "str"
  | .bytes _ => "bytes"
  | .date _ => "date"
  | .datetime _ => "datetime"
  | .list _ => "list"
  | .tuple _ => "tuple"
  | .set _ => "set"
  | .map _ => "dict"

/-- Nothing, false, zero, and whatever is empty. -/
def isVacant : Value → Bool
  | .null => true
  | .bool value => !value
  | .int value => value == 0
  | .float value => value.isZero
  | .str text => text.isEmpty
  | .bytes content => content.isEmpty
  | .list items => items.isEmpty
  | .tuple items => items.isEmpty
  | .set members => members.isEmpty
  | .map entries => entries.isEmpty
  | _ => false

/-- The value unless it is vacant. -/
def orElse (value fallback : Value) : Value :=
  if value.isVacant then fallback else value

mutual

/-- Whether two values are the same key of a mapping. -/
def sameKey : Value → Value → Bool
  | .null, other => match other with
    | .null => true
    | _ => false
  | .str text, other => match other with
    | .str otherText => text == otherText
    | _ => false
  | .bytes content, other => match other with
    | .bytes otherContent => content == otherContent
    | _ => false
  | .date day, other => match other with
    | .date otherDay => day == otherDay
    | _ => false
  | .datetime moment, other => match other with
    | .datetime otherMoment =>
      moment.ahead.isSome == otherMoment.ahead.isSome &&
        moment.universalTime == otherMoment.universalTime
    | _ => false
  | .tuple items, other => match other with
    | .tuple otherItems => sameKeys items otherItems
    | _ => false
  | .bool value, other => other.size?.any (Size.equals (.exact (if value then 1 else 0)))
  | .int value, other => other.size?.any (Size.equals (.exact value))
  | .float value, other => other.size?.any (Size.equals value.size)
  | _, _ => false

/-- Whether two lists are the same keys in the same order. -/
def sameKeys : List Value → List Value → Bool
  | [], others => others.isEmpty
  | item :: items, others => match others with
    | [] => false
    | other :: others => sameKey item other && sameKeys items others

end

mutual

/-- Whether a value can be a key of a mapping or a member of a set. -/
def isKey : Value → Bool
  | .list _ => false
  | .set _ => false
  | .map _ => false
  | .tuple items => areKeys items
  | _ => true

/-- Whether all values of a list can be keys. -/
def areKeys : List Value → Bool
  | [] => true
  | item :: items => isKey item && areKeys items

end

/-- The value under a key of a mapping's entries. -/
def lookup? (entries : List (Value × Value)) (key : Value) : Option Value :=
  (entries.find? fun entry => sameKey entry.1 key).map (·.2)

/-- The value under a text key of a mapping's entries. -/
def field? (entries : List (Value × Value)) (name : String) : Option Value :=
  lookup? entries (.str name)

/-- Sets a key: in place where it is present, at the end where it is not. -/
def insert (entries : List (Value × Value)) (key value : Value) : List (Value × Value) :=
  match entries with
  | [] => [(key, value)]
  | entry :: rest =>
    if sameKey entry.1 key then (entry.1, value) :: rest else entry :: insert rest key value

/-- The mapping that results from setting entries one after another. -/
def ofEntries (entries : List (Value × Value)) : List (Value × Value) :=
  entries.foldl (fun built entry => insert built entry.1 entry.2) []

/-- Adds a member to a set that does not hold it. -/
def insertMember (members : List Value) (member : Value) : List Value :=
  if members.any (sameKey · member) then members else members ++ [member]

/-- The set of a list's values. -/
def membersOf (items : List Value) : List Value :=
  items.foldl insertMember []

/-- The text of a text value. -/
def text? : Value → Option String
  | .str text => some text
  | _ => none

/-- The entries of a mapping. -/
def entries? : Value → Option (List (Value × Value))
  | .map entries => some entries
  | _ => none

end Value

end ApiCompiler
