import ApiCompiler.Decimal.Binary64
import ApiCompiler.Text.Digit

/-!
# Real numerals

Reading a real number as it may be written by hand: blanks around, a sign, single underscores
between digits, a point, an exponent, and the names of the infinities and of the undefined number.
-/

namespace ApiCompiler.Binary64

open Text

def isDigitOrMark (character : Char) : Bool :=
  (baseDigit? 10 character).isSome || character == '_'

/-- Digits that may be missing altogether. -/
def optionalDigits? : List Char → Option (List Nat)
  | [] => some []
  | text => separatedDigits? 10 text

def exponent? : List Char → Option Int
  | [] => some 0
  | mark :: rest =>
    if mark = 'e' || mark = 'E' then do
      let (negative, rest) := takeSign rest
      let digits ← separatedDigits? 10 rest
      let size : Int := digitsValue 10 digits
      return if negative then -size else size
    else none

def unsigned? (negative : Bool) (text : List Char) : Option Binary64 := do
  let whole := text.takeWhile isDigitOrMark
  let rest := text.dropWhile isDigitOrMark
  let (fraction, rest) := match rest with
    | '.' :: rest => (rest.takeWhile isDigitOrMark, rest.dropWhile isDigitOrMark)
    | rest => ([], rest)
  if whole.isEmpty && fraction.isEmpty then none
  else
    let wholeDigits ← optionalDigits? whole
    let fractionDigits ← optionalDigits? fraction
    let power ← exponent? rest
    return ofDecimal negative (digitsValue 10 (wholeDigits ++ fractionDigits))
      (power - fractionDigits.length)

/-- The number that a text writes, if it writes one. -/
def ofText? (text : List Char) : Option Binary64 :=
  let (negative, rest) := takeSign (bareNumeral text)
  let name := String.ofList (rest.map Char.toLower)
  if name = "inf" || name = "infinity" then some (.infinite negative)
  else if name = "nan" then some .nan
  else unsigned? negative rest

end ApiCompiler.Binary64
