/-!
# The 64-bit binary format

Numbers of the 64-bit binary floating-point format as exact values: sign, significand and exponent.
Results that the format does not hold are rounded to the nearest number, a half to the even one.
-/

namespace ApiCompiler

/-- A number of the format; a finite one is its significand times two to its exponent. -/
inductive Binary64 where
  | nan
  | infinite (negative : Bool)
  | finite (negative : Bool) (significand : Nat) (exponent : Int)
deriving Repr, DecidableEq, Inhabited

namespace Binary64

/-- The least exponent of the format. -/
def leastExponent : Int := -1074

/-- The greatest exponent of the format. -/
def greatestExponent : Int := 971

/-- The number of bits of a significand. -/
def precision : Nat := 53

/-- The least significand whose first bit is set. -/
def leastNormal : Nat := 0x10000000000000

/-- Zero of either sign. -/
def zero (negative : Bool) : Binary64 :=
  .finite negative 0 leastExponent

/-- The quotient rounded to a whole number, a half to the even one. -/
def divideToEven (numerator denominator : Nat) : Nat :=
  let quotient := numerator / denominator
  let twice := 2 * (numerator % denominator)
  if twice < denominator then quotient
  else if denominator < twice then quotient + 1
  else quotient + quotient % 2

/-- A power of a base moved into the numerator or the denominator. -/
def scaleRatio (base : Nat) (exponent : Int) (numerator denominator : Nat) : Nat × Nat :=
  if 0 ≤ exponent then (numerator * base.pow exponent.toNat, denominator)
  else (numerator, denominator * base.pow (-exponent).toNat)

/-- A positive quotient rounded to the precision of the format: its significand and its exponent. -/
def roundRatio (numerator denominator : Nat) : Nat × Int :=
  let guess : Int := (numerator.log2 : Int) - denominator.log2 - (precision - 1 : Nat)
  let (top, bottom) := scaleRatio 2 (-guess) numerator denominator
  let exponent :=
    max (if top < bottom * leastNormal then guess - 1 else guess) leastExponent
  let (top, bottom) := scaleRatio 2 (-exponent) numerator denominator
  let rounded := divideToEven top bottom
  if rounded = 2 * leastNormal then (leastNormal, exponent + 1) else (rounded, exponent)

/-- The number nearest to a quotient of the given sign. -/
def ofRatio (negative : Bool) (numerator denominator : Nat) : Binary64 :=
  if numerator = 0 then zero negative
  else
    let rounded := roundRatio numerator denominator
    if greatestExponent < rounded.2 then .infinite negative
    else .finite negative rounded.1 rounded.2

/-- The number nearest to a decimal coefficient times a power of ten. -/
def ofDecimal (negative : Bool) (coefficient : Nat) (exponent : Int) : Binary64 :=
  if coefficient = 0 then zero negative
  else
    let size : Int := (Nat.toDigits 10 coefficient).length + exponent
    if 310 < size then .infinite negative
    else if size < -330 then zero negative
    else
      let (numerator, denominator) := scaleRatio 10 exponent coefficient 1
      ofRatio negative numerator denominator

/-- The number nearest to a whole number. -/
def ofInt (value : Int) : Binary64 :=
  ofRatio (value < 0) value.natAbs 1

/-- The same number with the other sign. -/
def negate : Binary64 → Binary64
  | .nan => .nan
  | .infinite negative => .infinite !negative
  | .finite negative significand exponent => .finite (!negative) significand exponent

/-- The exact value of a finite number. -/
def toRat (negative : Bool) (significand : Nat) (exponent : Int) : Rat :=
  let size : Rat :=
    if 0 ≤ exponent then (significand * Nat.pow 2 exponent.toNat : Nat)
    else mkRat significand (Nat.pow 2 (-exponent).toNat)
  if negative then -size else size

/-- The number nearest to an exact value; zero takes the given sign. -/
def ofRat (zeroNegative : Bool) (value : Rat) : Binary64 :=
  ofRatio (if value.num = 0 then zeroNegative else decide (value.num < 0))
    value.num.natAbs value.den

/-- The product. -/
def mul : Binary64 → Binary64 → Binary64
  | .nan, _ => .nan
  | _, .nan => .nan
  | .infinite left, .infinite right => .infinite (left != right)
  | .infinite left, .finite right significand _ =>
    if significand = 0 then .nan else .infinite (left != right)
  | .finite left significand _, .infinite right =>
    if significand = 0 then .nan else .infinite (left != right)
  | .finite left leftSignificand leftExponent, .finite right rightSignificand rightExponent =>
    let (numerator, denominator) :=
      scaleRatio 2 (leftExponent + rightExponent) (leftSignificand * rightSignificand) 1
    ofRatio (left != right) numerator denominator

/-- The sum. -/
def add : Binary64 → Binary64 → Binary64
  | .nan, _ => .nan
  | _, .nan => .nan
  | .infinite left, .infinite right => if left = right then .infinite left else .nan
  | .infinite left, .finite .. => .infinite left
  | .finite .., .infinite right => .infinite right
  | .finite left leftSignificand leftExponent, .finite right rightSignificand rightExponent =>
    ofRat (left && right)
      (toRat left leftSignificand leftExponent + toRat right rightSignificand rightExponent)

/-- A number equal to zero, of either sign. -/
def isZero : Binary64 → Bool
  | .finite _ significand _ => significand == 0
  | _ => false

/-- The whole number that a finite number is, if it is one. -/
def toInt? : Binary64 → Option Int
  | .finite negative significand exponent =>
    let value := toRat negative significand exponent
    if value.den = 1 then some value.num else none
  | _ => none

end Binary64

end ApiCompiler
