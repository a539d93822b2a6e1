import ApiCompiler.Text.Digit

/-!
# Faults of JSON texts

Why a text is not JSON, where that is by line and column, and the words for it.
-/

namespace ApiCompiler.Text

/-- A place in a text, by line, column and characters before it. -/
structure Position where
  line : Nat
  column : Nat
  offset : Nat
deriving Repr, DecidableEq

/-- The position of an offset; only line feeds start a line. -/
def Position.ofOffset (text : List Char) (offset : Nat) : Position :=
  let before := text.take offset
  let column := (before.reverse.takeWhile (· != '\n')).length
  ⟨before.count '\n' + 1, column + 1, offset⟩

/-- The position as messages give it. -/
def Position.describe (position : Position) : String :=
  s!"line {position.line} column {position.column} (char {position.offset})"

end ApiCompiler.Text

namespace ApiCompiler.Json

/-- Why a text is not JSON. -/
inductive Cause where
  | byteOrderMark
  | extraData
  | noValue
  | noKey
  | noColon
  | noComma
  | unclosedString
  | controlCharacter
  | badEscape
  | badCodeEscape
deriving Repr, DecidableEq

/-- The words for a cause. -/
def Cause.words : Cause → String
  | .byteOrderMark => "Unexpected UTF-8 BOM (decode using utf-8-sig)"
  | .extraData => "Extra data"
  | .noValue => "Expecting value"
  | .noKey => "Expecting property name enclosed in double quotes"
  | .noColon => "Expecting ':' delimiter"
  | .noComma => "Expecting ',' delimiter"
  | .unclosedString => "Unterminated string starting at"
  | .controlCharacter => "Invalid control character at"
  | .badEscape => "Invalid \\escape"
  | .badCodeEscape => "Invalid \\uXXXX escape"

/-- What stops a reader, by how many characters were left there. -/
inductive Stop where
  | malformed (cause : Cause) (remaining : Nat)
  | longNumeral (digits : Nat)
deriving Repr, DecidableEq

/-- What is wrong with a text. -/
inductive Fault where
  | malformed (cause : Cause) (position : Text.Position)
  | longNumeral (digits : Nat)
deriving Repr, DecidableEq

/-- The fault of a text whose reader stopped. -/
def Stop.fault (text : List Char) : Stop → Fault
  | .malformed cause remaining =>
    .malformed cause (.ofOffset text (text.length - remaining))
  | .longNumeral digits => .longNumeral digits

/-- The words for a fault. -/
def Fault.message : Fault → String
  | .malformed cause position => s!"{cause.words}: {position.describe}"
  | .longNumeral digits =>
    s!"Exceeds the limit ({Text.numeralLimit} digits) for integer string conversion: value has " ++
      s!"{digits} digits; use sys.set_int_max_str_digits() to increase the limit"

end ApiCompiler.Json
