import ApiCompiler.Decimal.Layout
import ApiCompiler.Misuse
import ApiCompiler.Text.Digit
import ApiCompiler.Text.Lines
import ApiCompiler.Text.Quoted
import ApiCompiler.Value

/-!
# Values as text

A value as a literal, and as it is shown inside messages and urls: texts, days and moments plain,
all else as literals. Whole numbers with too many digits for a numeral are not shown.
-/

namespace ApiCompiler.Value

open Calendar Text

private def comma : List Char := [',', ' ']

private def enclose (opening closing : List Char) (pieces : List (List Char)) : List Char :=
  opening ++ joinWith comma pieces ++ closing

private def numbers (values : List Nat) : List (List Char) :=
  values.map (Nat.toDigits 10)

/-- A number that may be below zero. -/
def writeInt (value : Int) : List Char :=
  if value < 0 then '-' :: Nat.toDigits 10 value.natAbs else Nat.toDigits 10 value.natAbs

private def dateLiteral (date : Date) : List Char :=
  enclose "datetime.date(".toList [')'] (numbers [date.year, date.month, date.day])

private def distanceLiteral (minutes : Int) : List Char :=
  if minutes = 0 then "datetime.timezone.utc".toList
  else
    let seconds := minutes * 60
    let days := Int.fdiv seconds 86400
    let rest := Int.fmod seconds 86400
    let parts :=
      (if days = 0 then [] else ["days=".toList ++ writeInt days]) ++
        (if rest = 0 then [] else ["seconds=".toList ++ writeInt rest])
    enclose "datetime.timezone(datetime.timedelta(".toList [')', ')'] parts

private def momentLiteral (moment : Moment) : List Char :=
  let date := moment.date
  let time := numbers [date.year, date.month, date.day, moment.hour, moment.minute]
  let fine :=
    if moment.microsecond = 0 then if moment.second = 0 then [] else numbers [moment.second]
    else numbers [moment.second, moment.microsecond]
  let distance := match moment.ahead with
    | none => []
    | some minutes => ["tzinfo=".toList ++ distanceLiteral minutes]
  enclose "datetime.datetime(".toList [')'] (time ++ fine ++ distance)

mutual

/-- A value as a literal. A set has no order of its own, and its members may be written in any; here
they stand as they were met. -/
def literal : Value → List Char
  | .null => "None".toList
  | .bool value => (if value then "True" else "False").toList
  | .int value => writeInt value
  | .float value => (DecimalLayout.display.write value).toList
  | .str text => quote text.toList
  | .bytes content => quoteBytes content
  | .date day => dateLiteral day
  | .datetime moment => momentLiteral moment
  | .list items => enclose ['['] [']'] (literals items)
  | .tuple items => match literals items with
    | [single] => '(' :: single ++ [',', ')']
    | pieces => enclose ['('] [')'] pieces
  | .set members => match literals members with
    | [] => "set()".toList
    | pieces => enclose ['\x7b'] ['\x7d'] pieces
  | .map entries => enclose ['\x7b'] ['\x7d'] (entryLiterals entries)

/-- The literals of a list's values. -/
def literals : List Value → List (List Char)
  | [] => []
  | item :: items => literal item :: literals items

/-- The literals of a mapping's entries. -/
def entryLiterals : List (Value × Value) → List (List Char)
  | [] => []
  | (key, value) :: rest => (literal key ++ [':', ' '] ++ literal value) :: entryLiterals rest

end

/-- A value as it is shown inside messages and urls. -/
def display : Value → List Char
  | .str text => text.toList
  | .date day => day.write
  | .datetime moment => moment.write ' '
  | value => literal value

/-- A value as it is shown inside messages and urls. -/
def displayed (value : Value) : String :=
  String.ofList value.display

/-- Whether a number has no more digits than a numeral may have. -/
def isShort (value : Int) : Bool :=
  value.natAbs < Nat.pow 10 numeralLimit

mutual

/-- Whether no number inside a value is too long to be shown. -/
def isShowable : Value → Bool
  | .int value => isShort value
  | .list items => areShowable items
  | .tuple items => areShowable items
  | .set members => areShowable members
  | .map entries => entriesShowable entries
  | _ => true

def areShowable : List Value → Bool
  | [] => true
  | item :: items => item.isShowable && areShowable items

def entriesShowable : List (Value × Value) → Bool
  | [] => true
  | (key, value) :: rest => key.isShowable && value.isShowable && entriesShowable rest

end

/-- A value that can be shown. -/
def showable (value : Value) : Except Misuse Value :=
  if value.isShowable then .ok value else .error .badContent

/-- A value as it is shown, if it can be. -/
def shown (value : Value) : Except Misuse String := do
  return (← value.showable).displayed

theorem shown_eq (value : Value) :
    value.shown = if value.isShowable = true then .ok value.displayed else .error .badContent := by
  unfold shown showable
  split <;> rfl

end ApiCompiler.Value
