import ApiCompiler.Text.Blank

/-!
# Digits and numerals

Decimal digits of every script, digits of a base, and whole numbers as they may be written by hand:
blanks around, a sign, single underscores between digits.
-/

namespace ApiCompiler.Text

private def decimalZeros : List Nat := [
  0x30, 0x660, 0x6F0, 0x7C0, 0x966, 0x9E6, 0xA66, 0xAE6, 0xB66, 0xBE6,
  0xC66, 0xCE6, 0xD66, 0xDE6, 0xE50, 0xED0, 0xF20, 0x1040, 0x1090, 0x17E0,
  0x1810, 0x1946, 0x19D0, 0x1A80, 0x1A90, 0x1B50, 0x1BB0, 0x1C40, 0x1C50, 0xA620,
  0xA8D0, 0xA900, 0xA9D0, 0xA9F0, 0xAA50, 0xABF0, 0xFF10, 0x104A0, 0x10D30, 0x11066,
  0x110F0, 0x11136, 0x111D0, 0x112F0, 0x11450, 0x114D0, 0x11650, 0x116C0, 0x11730, 0x118E0,
  0x11950, 0x11C50, 0x11D50, 0x11DA0, 0x16A60, 0x16AC0, 0x16B50, 0x1D7CE, 0x1D7D8, 0x1D7E2,
  0x1D7EC, 0x1D7F6, 0x1E140, 0x1E2F0, 0x1E950, 0x1FBF0
]

/-- An ASCII digit. -/
def isDigit (character : Char) : Bool :=
  '0' ≤ character && character ≤ '9'

/-- The value of a decimal digit of any script. -/
def decimalDigit? (character : Char) : Option Nat :=
  let code := character.toNat
  (decimalZeros.find? fun start => start ≤ code && code < start + 10).map fun start => code - start

/-- The value of an ASCII digit or letter as a digit of a base. -/
def baseDigit? (base : Nat) (character : Char) : Option Nat :=
  let code := character.toNat
  let value :=
    if 0x30 ≤ code && code ≤ 0x39 then some (code - 0x30)
    else if 0x61 ≤ code && code ≤ 0x7A then some (code - 0x61 + 10)
    else if 0x41 ≤ code && code ≤ 0x5A then some (code - 0x41 + 10)
    else none
  value.filter (· < base)

/-- The value of a run of digits, most significant first. -/
def digitsValue (base : Nat) (digits : List Nat) : Nat :=
  digits.foldl (fun value digit => value * base + digit) 0

/-- Digits with single underscores between them, and none at either end. -/
def separatedDigits? (base : Nat) : List Char → Option (List Nat)
  | [] => none
  | [character] => (baseDigit? base character).map ([·])
  | character :: '_' :: rest => do
    let digit ← baseDigit? base character
    return digit :: (← separatedDigits? base rest)
  | character :: rest => do
    let digit ← baseDigit? base character
    return digit :: (← separatedDigits? base rest)

/-- The most decimal digits that a numeral may have. -/
def numeralLimit : Nat := 4300

/-- Digits of every script and blanks beyond ASCII as their ASCII forms. -/
def asciiNumeral (text : List Char) : List Char :=
  text.map fun character =>
    if character.toNat < 0x80 then character
    else if isBlank character then ' '
    else match decimalDigit? character with
      | some digit => Char.ofNat (0x30 + digit)
      | none => character

/-- The blanks that may stand around a numeral. -/
def isNumeralBlank (character : Char) : Bool :=
  character == ' ' || (0x09 ≤ character.toNat && character.toNat ≤ 0x0D)

/-- A numeral in ASCII without the blanks around it; the separator controls are no blanks here. -/
def bareNumeral (text : List Char) : List Char :=
  trimBy isNumeralBlank (asciiNumeral text)

/-- The sign in front of a numeral, and the rest. -/
def takeSign : List Char → Bool × List Char
  | '-' :: rest => (true, rest)
  | '+' :: rest => (false, rest)
  | rest => (false, rest)

/-- Drops a base's mark, which an underscore may follow. -/
def dropBaseMark (mark : Char) : List Char → List Char
  | '0' :: letter :: '_' :: rest =>
    if letter.toLower = mark then rest else '0' :: letter :: '_' :: rest
  | '0' :: letter :: rest => if letter.toLower = mark then rest else '0' :: letter :: rest
  | rest => rest

/-- A whole number in a base, as it may be written by hand; `none` is no numeral. -/
def integer? (base : Nat) (text : List Char) : Option Int := do
  let (negative, rest) := takeSign (bareNumeral text)
  let rest :=
    if base == 8 then dropBaseMark 'o' rest
    else if base == 16 then dropBaseMark 'x' rest
    else if base == 2 then dropBaseMark 'b' rest
    else rest
  let digits ← separatedDigits? base rest
  if base == 10 && digits.length > numeralLimit then none
  else
    let magnitude : Int := digitsValue base digits
    return if negative then -magnitude else magnitude

end ApiCompiler.Text
