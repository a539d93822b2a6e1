import ApiCompiler.Decimal.Numeral
import ApiCompiler.Text.Base64
import ApiCompiler.Text.Lines
import ApiCompiler.Text.Lowercase
import ApiCompiler.Value
import ApiCompiler.Yaml.Tag
import ApiCompiler.Yaml.Token

/-!
# Values of scalars

The value that the text of a scalar writes under a tag.
-/

namespace ApiCompiler.Yaml.Scalar

open Text

def misuse {α : Type} (cause : Misuse) : Except Fault α :=
  .error (.misuse cause)

def ofOption {α : Type} (cause : Misuse) : Option α → Except Fault α
  | some value => .ok value
  | none => misuse cause

def withoutUnderscores (text : List Char) : List Char :=
  text.filter (· != '_')

def wholeNumber (base : Nat) (text : List Char) : Except Fault Int :=
  ofOption .badContent (integer? base text)

def realNumber (text : List Char) : Except Fault Binary64 :=
  ofOption .badContent (Binary64.ofText? text)

/-- A whole number without sign, in the base that its beginning tells. -/
def unsignedInt : List Char → Except Fault Int
  | [] => misuse .absentItem
  | ['0'] => .ok 0
  | '0' :: 'b' :: digits => wholeNumber 2 digits
  | '0' :: 'x' :: digits => wholeNumber 16 digits
  | '0' :: digits => wholeNumber 8 ('0' :: digits)
  | digits => do
    let pieces ← (splitAt ':' digits).mapM (wholeNumber 10)
    return pieces.foldl (fun value piece => value * 60 + piece) 0

def int (text : List Char) : Except Fault Value := do
  let digits := withoutUnderscores text
  let (negative, unsigned) := takeSign digits
  let value ← unsignedInt unsigned
  return .int (if negative then -value else value)

/-- The pieces of a number in base sixty, the last one first, added up step by step. -/
private def sexagesimalSum : List Binary64 → Int → Binary64 → Except Fault Binary64
  | [], _, sum => .ok sum
  | piece :: pieces, unit, sum =>
    match Binary64.ofInt unit with
    | .finite negative significand exponent =>
      sexagesimalSum pieces (unit * 60)
        (sum.add (piece.mul (.finite negative significand exponent)))
    | _ => misuse .outOfRange

def unsignedFloat (text : List Char) : Except Fault Binary64 :=
  if text == ".inf".toList then .ok (.infinite false)
  else if text == ".nan".toList then .ok .nan
  else if text.contains ':' then do
    let pieces ← (splitAt ':' text).mapM realNumber
    sexagesimalSum pieces.reverse 1 (.zero false)
  else realNumber text

/-- The word for the undefined number, with a sign or without. -/
def namesUndefined (text : String) : Bool :=
  (takeSign (lowercase (withoutUnderscores text.toList))).2 == ".nan".toList

def float (text : List Char) : Except Fault Value := do
  let digits := lowercase (withoutUnderscores text)
  if digits.isEmpty then misuse .absentItem
  else
    let (negative, unsigned) := takeSign digits
    let value ← unsignedFloat unsigned
    return .float (if negative then value.negate else value)

def bool (text : List Char) : Except Fault Value :=
  let word := String.ofList (lowercase text)
  if ["yes", "true", "on"].contains word then .ok (.bool true)
  else if ["no", "false", "off"].contains word then .ok (.bool false)
  else misuse .absentKey

def binary (text : List Char) : Except Fault Value :=
  if text.all (·.toNat < 0x80) then
    match base64? text with
    | some content => .ok (.bytes content)
    | none => .error .malformed
  else .error .malformed

def timestamp (text : List Char) : Except Fault Value :=
  let text := if text.getLast? == some '\n' then text.dropLast else text
  match Timestamp.ofText? text with
  | none => misuse .noFields
  | some (.day date) => if date.isValid then .ok (.date date) else misuse .badContent
  | some (.time moment) => if moment.isValid then .ok (.datetime moment) else misuse .badContent

/-- The value of a scalar; collections and tags without a meaning have none. -/
def value (tag : Tag) (text : String) : Except Fault Value :=
  match tag with
  | .null => .ok .null
  | .bool => bool text.toList
  | .int => int text.toList
  | .float => float text.toList
  | .binary => binary text.toList
  | .timestamp => timestamp text.toList
  | .str => .ok (.str text)
  | _ => .error .malformed

end ApiCompiler.Yaml.Scalar
