import ApiCompiler.Decimal.Binary64

/-!
# Layout of decimal numbers

The fewest decimal digits that read back as a number of the 64-bit format, and of those the nearest
to its exact value. On a grid of given fineness only the two neighbours of the value are tried.

The digits are set out as text with a point in place for sizes near one, otherwise with an exponent
that has a sign and at least two digits.
-/

namespace ApiCompiler

/-- A coefficient times a power of ten. -/
structure DecimalDigits where
  coefficient : Nat
  exponent : Int
deriving Repr, DecidableEq

namespace DecimalDigits

/-- Whether the digits read back as the size of a number. -/
def readsAs (digits : DecimalDigits) (significand : Nat) (exponent : Int) : Bool :=
  Binary64.ofDecimal false digits.coefficient digits.exponent = .finite false significand exponent

/-- The least power of ten above a positive quotient, as its exponent. -/
def leadingPlace (numerator denominator : Nat) : Int :=
  if denominator ≤ numerator then (Nat.toDigits 10 (numerator / denominator)).length
  else 1 - ((Nat.toDigits 10 (denominator / numerator)).length : Int)

/-- The grid point that reads back, the nearer one where both neighbours do. -/
def onGrid? (significand : Nat) (exponent : Int) (numerator denominator : Nat) (place : Int) :
    Option DecimalDigits :=
  let (top, bottom) := Binary64.scaleRatio 10 (-place) numerator denominator
  let below : DecimalDigits := ⟨top / bottom, place⟩
  let above : DecimalDigits := ⟨top / bottom + 1, place⟩
  let twice := 2 * (top % bottom)
  let nearer :=
    if twice < bottom || (twice = bottom && below.coefficient % 2 == 0) then below else above
  let farther := if nearer.coefficient = below.coefficient then above else below
  if nearer.readsAs significand exponent then some nearer
  else if farther.readsAs significand exponent then some farther
  else none

/-- Tries finer and finer grids, the given number of them. -/
def search (significand : Nat) (exponent : Int) (numerator denominator : Nat) :
    Nat → Int → DecimalDigits
  | 0, place => ⟨numerator / denominator, place⟩
  | tries + 1, place =>
    match onGrid? significand exponent numerator denominator place with
    | some digits => digits
    | none => search significand exponent numerator denominator tries (place - 1)

/-- Drops trailing zeros of a positive coefficient, at most the given number. -/
def dropZeros : Nat → DecimalDigits → DecimalDigits
  | 0, digits => digits
  | tries + 1, digits =>
    if digits.coefficient % 10 = 0 && digits.coefficient != 0 then
      dropZeros tries ⟨digits.coefficient / 10, digits.exponent + 1⟩
    else digits

/-- Seventeen digits tell all numbers of the format apart. -/
def mostDigits : Nat := 17

/-- The shortest digits of a finite number that is not zero. -/
def shortest (significand : Nat) (exponent : Int) : DecimalDigits :=
  let (numerator, denominator) := Binary64.scaleRatio 2 exponent significand 1
  let place := leadingPlace numerator denominator - 1
  dropZeros (mostDigits + 1) (search significand exponent numerator denominator mostDigits place)

end DecimalDigits

/-- The decisions of a number format. -/
structure DecimalLayout where
  /-- The least power of ten written in place. -/
  leastInPlace : Int
  /-- The least power of ten written with an exponent again. -/
  leastWithExponent : Int
  /-- The least width of an exponent. -/
  exponentWidth : Nat
  /-- What follows a whole number written in place. -/
  wholeEnding : List Char
  notANumber : String
  infinity : String
  negativeInfinity : String

namespace DecimalLayout

/-- Numbers inside messages, urls and generated text. -/
def display : DecimalLayout where
  leastInPlace := -4
  leastWithExponent := 16
  exponentWidth := 2
  wholeEnding := ['.', '0']
  notANumber := "nan"
  infinity := "inf"
  negativeInfinity := "-inf"

/-- Numbers inside JSON. -/
def json : DecimalLayout :=
  { display with notANumber := "NaN", infinity := "Infinity", negativeInfinity := "-Infinity" }

private def padLeft (width : Nat) (digits : List Char) : List Char :=
  List.replicate (width - digits.length) '0' ++ digits

/-- The digits of a positive number with their point or exponent. -/
def setOut (layout : DecimalLayout) (number : DecimalDigits) : List Char :=
  let digits := Nat.toDigits 10 number.coefficient
  let power : Int := digits.length + number.exponent - 1
  if layout.leastInPlace ≤ power && power < layout.leastWithExponent then
    if power < 0 then
      ['0', '.'] ++ List.replicate (-power - 1).toNat '0' ++ digits
    else
      let whole := (power + 1).toNat
      if digits.length ≤ whole then
        digits ++ List.replicate (whole - digits.length) '0' ++ layout.wholeEnding
      else digits.take whole ++ ['.'] ++ digits.drop whole
  else
    let mantissa := match digits with
      | [] => []
      | [digit] => [digit]
      | digit :: rest => digit :: '.' :: rest
    mantissa ++ ['e', if power < 0 then '-' else '+'] ++
      padLeft layout.exponentWidth (Nat.toDigits 10 power.natAbs)

/-- The text of a number. -/
def write (layout : DecimalLayout) : Binary64 → String
  | .nan => layout.notANumber
  | .infinite negative => if negative then layout.negativeInfinity else layout.infinity
  | .finite negative significand exponent =>
    let size :=
      if significand = 0 then '0' :: layout.wholeEnding
      else layout.setOut (DecimalDigits.shortest significand exponent)
    String.ofList (if negative then '-' :: size else size)

end DecimalLayout

end ApiCompiler
