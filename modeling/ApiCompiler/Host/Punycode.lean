import ApiCompiler.Text.Digit

/-!
# Punycode

A name's characters beyond ASCII as letters and digits. The ASCII characters come first; each other
one is a number that tells how far it is from the one written before, in the order of code points
and, among equals, of places. A number has a varying base, and its last digit is below a threshold
that adapts to the numbers before it.
-/

namespace ApiCompiler.Host.Punycode

/-- The value of the digits that end a number. -/
def threshold (place bias : Nat) : Nat :=
  min 26 (max 1 (place - bias))

private def damp (delta steps : Nat) : Nat :=
  if 455 < delta then damp (delta / 35) (steps + 36) else steps + 36 * delta / (delta + 38)
termination_by delta

/-- The bias after a number, which the count of characters so far makes smaller. -/
def adapt (delta count : Nat) (isFirst : Bool) : Nat :=
  let scaled := if isFirst then delta / 700 else delta / 2
  damp (scaled + scaled / count) 0

private def firstBias : Nat := 72

/-- The first code point beyond ASCII. -/
def firstCode : Nat := 0x80

/-- A digit of a number. -/
def digit (value : Nat) : Char :=
  if value < 26 then Char.ofNat (0x61 + value) else Char.ofNat (0x30 + value - 26)

/-- The digits of a number, least first. -/
def writeNumber (bias place value : Nat) : List Char :=
  let least := threshold place bias
  if value < least then [digit value]
  else
    digit (least + (value - least) % (36 - least)) ::
      writeNumber bias (place + 36) ((value - least) / (36 - least))
termination_by value
decreasing_by
  have positive : 1 ≤ threshold place bias := by simp only [threshold]; omega
  exact Nat.lt_of_le_of_lt (Nat.div_le_self _ _) (by omega)

/-- What is written, the distance since, and the count of characters that it covers. -/
structure Written where
  text : List Char
  delta : Nat
  bias : Nat
  count : Nat
  isFirst : Bool

/-- A character of the text is counted, or written as a number where its turn has come. -/
def Written.meet (next : Nat) (written : Written) (code : Nat) : Written :=
  if code < next then { written with delta := written.delta + 1 }
  else if code == next then
    ⟨written.text ++ writeNumber written.bias 36 written.delta, 0,
      adapt written.delta (written.count + 1) written.isFirst, written.count + 1, false⟩
  else written

/-- The characters beyond ASCII one after another, in their order. -/
def writeFrom (label : List Nat) : Nat → Written → List Nat → Written
  | _, written, [] => written
  | reached, written, next :: rest =>
    let ahead := { written with delta := written.delta + (next - reached) * (written.count + 1) }
    let met := label.foldl (·.meet next) ahead
    writeFrom label (next + 1) { met with delta := met.delta + 1 } rest

private def putInOrder (code : Nat) : List Nat → List Nat
  | [] => [code]
  | other :: rest =>
    if code < other then code :: other :: rest
    else if code == other then other :: rest
    else other :: putInOrder code rest

/-- Characters as letters and digits. -/
def write (label : List Nat) : List Char :=
  let plain := (label.filter (· < firstCode)).map Char.ofNat
  let others := (label.filter (firstCode ≤ ·)).foldr putInOrder []
  let written := writeFrom label firstCode ⟨[], 0, firstBias, plain.length, true⟩ others
  (if plain.isEmpty then [] else plain ++ ['-']) ++ written.text

/-- What is read: the characters, the last code point and the place behind it, and the part of a
number. -/
structure Reading where
  label : List Nat
  code : Nat
  spot : Nat
  bias : Nat
  isFirst : Bool
  delta : Nat
  weight : Nat
  place : Nat

/-- A number is complete: its character is put in its place. -/
def Reading.finish (reading : Reading) (delta : Nat) : Option Reading :=
  let count := reading.label.length + 1
  let code := reading.code + (reading.spot + delta) / count
  let spot := (reading.spot + delta) % count
  if 0x10FFFF < code then none
  else some ⟨reading.label.take spot ++ code :: reading.label.drop spot, code, spot + 1,
    adapt delta count reading.isFirst, false, 0, 1, 36⟩

/-- The next digit of a number. -/
def Reading.meet (reading : Reading) (letter : Char) : Option Reading := do
  let value ← Text.baseDigit? 36 letter
  let value := if value < 10 then value + 26 else value - 10
  let least := threshold reading.place reading.bias
  let delta := reading.delta + value * reading.weight
  if value < least then reading.finish delta
  else some { reading with
    delta, weight := reading.weight * (36 - least), place := reading.place + 36 }

/-- The characters that letters and digits stand for; the last number has to be complete. -/
def read (text : List Char) : Option (List Nat) := do
  let digits := (text.reverse.takeWhile (· != '-')).reverse
  let plain := (text.take (text.length - digits.length)).dropLast.map Char.toNat
  let reading ← digits.foldlM Reading.meet
    ⟨plain, firstCode, 0, firstBias, true, 0, 1, 36⟩
  if reading.place == 36 then some reading.label else none

end ApiCompiler.Host.Punycode
