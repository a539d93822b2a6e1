import ApiCompiler.Calendar
import ApiCompiler.Text.Digit

/-!
# Timestamps

Days and moments as YAML writes them. Whether the calendar has them is not looked at here.
-/

namespace ApiCompiler.Yaml

open Text Calendar

/-- A day, alone or with a time. -/
inductive Timestamp where
  | day (date : Date)
  | time (moment : Moment)
deriving Repr, DecidableEq

namespace Timestamp

private def numberOf (digits : List Char) : Nat :=
  digitsValue 10 (digits.map fun digit => digit.toNat - 0x30)

/-- As many digits as there are, between two bounds. -/
def takeNumber (least most : Nat) (text : List Char) : Option (Nat × List Char) :=
  let digits := (text.take most).takeWhile isDigit
  if digits.length < least then none else some (numberOf digits, text.drop digits.length)

def takeMark (mark : Char) : List Char → Option (List Char)
  | first :: rest => if first == mark then some rest else none
  | [] => none

private def isBlankMark (character : Char) : Bool :=
  character == ' ' || character == '\t'

def takeDate (text : List Char) : Option (Date × List Char) := do
  let (year, rest) ← takeNumber 4 4 text
  let (month, rest) ← takeNumber 1 2 (← takeMark '-' rest)
  let (dayNumber, rest) ← takeNumber 1 2 (← takeMark '-' rest)
  return (⟨year, month, dayNumber⟩, rest)

/-- What stands between a day and a time: a letter or blanks. -/
private def takeDaySeparator : List Char → Option (List Char)
  | 'T' :: rest => some rest
  | 't' :: rest => some rest
  | text => if text.head?.any isBlankMark then some (text.dropWhile isBlankMark) else none

/-- The first six digits behind a point as microseconds. -/
private def takeFraction : List Char → Nat × List Char
  | '.' :: rest =>
    let digits := (rest.takeWhile isDigit).take 6
    (numberOf (digits ++ List.replicate (6 - digits.length) '0'), rest.dropWhile isDigit)
  | rest => (0, rest)

/-- Hours and perhaps minutes behind a sign. -/
private def takeMinutes (text : List Char) : Option (Nat × List Char) := do
  let (hours, rest) ← takeNumber 1 2 text
  match rest with
  | ':' :: rest =>
    let (minutes, rest) ← takeNumber 2 2 rest
    return (hours * 60 + minutes, rest)
  | rest => return (hours * 60, rest)

/-- The distance from universal time that ends a text; nothing at all is no distance. -/
private def distance? (text : List Char) : Option (Option Int) :=
  if text.isEmpty then some none
  else match text.dropWhile isBlankMark with
    | ['Z'] => some (some 0)
    | '+' :: rest =>
      match takeMinutes rest with
      | some (minutes, []) => some (some minutes)
      | _ => none
    | '-' :: rest =>
      match takeMinutes rest with
      | some (minutes, []) => some (some (-minutes))
      | _ => none
    | _ => none

/-- The timestamp that a whole text writes. -/
def ofText? (text : List Char) : Option Timestamp := do
  let (date, rest) ← takeDate text
  if rest.isEmpty then return .day date
  else
    let (hour, rest) ← takeNumber 1 2 (← takeDaySeparator rest)
    let (minute, rest) ← takeNumber 2 2 (← takeMark ':' rest)
    let (second, rest) ← takeNumber 2 2 (← takeMark ':' rest)
    let (microsecond, rest) := takeFraction rest
    let ahead ← distance? rest
    return .time ⟨date, hour, minute, second, microsecond, ahead⟩

end Timestamp

end ApiCompiler.Yaml
