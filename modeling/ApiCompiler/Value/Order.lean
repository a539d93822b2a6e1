import ApiCompiler.Value

/-!
# Equality and order of values

Numbers compare by exact size across kinds, texts by code point, bytes bytewise, lists and tuples by
the first position at which they differ, sets by inclusion, days and moments by time. Other pairs do
not compare.
-/

namespace ApiCompiler.Value

mutual

/-- Whether two values are equal; mappings and sets regardless of order. -/
def equal : Value → Value → Bool
  | .list items, other => match other with
    | .list otherItems => equalItems items otherItems
    | _ => false
  | .tuple items, other => match other with
    | .tuple otherItems => equalItems items otherItems
    | _ => false
  | .set members, other => match other with
    | .set otherMembers =>
      members.length == otherMembers.length && members.all fun member =>
        otherMembers.any (sameKey member)
    | _ => false
  | .map entries, other => match other with
    | .map otherEntries =>
      entries.length == otherEntries.length && equalEntries entries otherEntries
    | _ => false
  | .bool value, other => other.size?.any (Size.equals (.exact (if value then 1 else 0)))
  | .int value, other => other.size?.any (Size.equals (.exact value))
  | .float value, other => other.size?.any (Size.equals value.size)
  | value, other => sameKey value other

/-- Whether two lists hold equal values in the same order. -/
def equalItems : List Value → List Value → Bool
  | [], others => others.isEmpty
  | item :: items, others => match others with
    | [] => false
    | other :: others => equal item other && equalItems items others

/-- Whether every entry has an equal value under the same key among other entries. -/
def equalEntries : List (Value × Value) → List (Value × Value) → Bool
  | [], _ => true
  | (key, value) :: rest, others =>
    (match lookup? others key with
      | some other => equal value other
      | none => false) && equalEntries rest others

end

/-- Lexicographic order of lists whose elements are totally ordered. -/
def bytesBelow : List UInt8 → List UInt8 → Bool
  | [], right => !right.isEmpty
  | _ :: _, [] => false
  | left :: lefts, right :: rights =>
    if left = right then bytesBelow lefts rights else left < right

/-- The order of texts by code point. -/
def textBelow : List Char → List Char → Bool
  | [], right => !right.isEmpty
  | _ :: _, [] => false
  | left :: lefts, right :: rights =>
    if left = right then textBelow lefts rights else left < right

/-- The order of days. -/
def dateBelow (left right : Calendar.Date) : Bool :=
  left.year < right.year || (left.year == right.year && (left.month < right.month ||
    (left.month == right.month && left.day < right.day)))

private def numberBelow? (size : Size) (other : Value) : Option Bool :=
  other.size?.map size.below

mutual

/-- Whether the first value is below the second; `none` where the two do not compare. -/
def below? : Value → Value → Option Bool
  | .bool value, other => numberBelow? (.exact (if value then 1 else 0)) other
  | .int value, other => numberBelow? (.exact value) other
  | .float value, other => numberBelow? value.size other
  | .str text, other => match other with
    | .str otherText => some (textBelow text.toList otherText.toList)
    | _ => none
  | .bytes content, other => match other with
    | .bytes otherContent => some (bytesBelow content otherContent)
    | _ => none
  | .date day, other => match other with
    | .date otherDay => some (dateBelow day otherDay)
    | _ => none
  | .datetime moment, other => match other with
    | .datetime otherMoment =>
      if moment.ahead.isSome == otherMoment.ahead.isSome then
        some (moment.universalTime < otherMoment.universalTime)
      else none
    | _ => none
  | .list items, other => match other with
    | .list otherItems => itemsBelow? items otherItems
    | _ => none
  | .tuple items, other => match other with
    | .tuple otherItems => itemsBelow? items otherItems
    | _ => none
  | .set members, other => match other with
    | .set otherMembers =>
      some (members.length < otherMembers.length && members.all fun member =>
        otherMembers.any (sameKey member))
    | _ => none
  | _, _ => none

/-- Lexicographic order: the first unequal position decides, otherwise the shorter list is below. -/
def itemsBelow? : List Value → List Value → Option Bool
  | [], others => some !others.isEmpty
  | item :: items, others => match others with
    | [] => some false
    | other :: others =>
      if equal item other then itemsBelow? items others else below? item other

end

/-- Minus one, zero or one: the first value is below, beside or above the second. -/
def compare? (left right : Value) : Option Int := do
  let above ← below? right left
  let below ← below? left right
  return (if above then 1 else 0) - (if below then 1 else 0)

end ApiCompiler.Value
