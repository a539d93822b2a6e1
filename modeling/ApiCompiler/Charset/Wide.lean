import ApiCompiler.Text.Base64
import ApiCompiler.Text.Utf8

/-!
# Wide characters

Characters that are written in units of two bytes, of which some need two units, or in four bytes
each. A mark at the start may tell the order of the bytes. Wide characters are written in bytes of
seven bits as well. In every charset, bytes that only write no character are read as replacements;
other faults end the reading.
-/

namespace ApiCompiler.Charset

/-- Why bytes are not read as characters. -/
inductive Fault where
  /-- Wide characters do not tell the order of their bytes. -/
  | unordered
  /-- The charset knows no replacements. -/
  | strict
  /-- What the bytes write is bytes again. -/
  | writesBytes
  /-- What is rewritten are characters and not bytes. -/
  | rewritesCharacters
deriving Repr, DecidableEq

/-- The words for a fault. -/
def Fault.words : Fault → String
  | .unordered => "a text without the order of its bytes"
  | .strict => "a charset without replacements"
  | .writesBytes => "a charset that writes bytes"
  | .rewritesCharacters => "a charset that rewrites characters"

/-- The order of the bytes of a wide character. -/
inductive ByteOrder where
  | highFirst
  | lowFirst
deriving Repr, DecidableEq

/-- How wide characters are written. -/
inductive Width where
  /-- In one or two units of two bytes. -/
  | units
  /-- In four bytes. -/
  | quadruples
deriving Repr, DecidableEq

private def numberOf (order : ByteOrder) (bytes : List UInt8) : Nat :=
  let bytes := match order with
    | .highFirst => bytes
    | .lowFirst => bytes.reverse
  bytes.foldl (fun number byte => number * 256 + byte.toNat) 0

/-- Whether a unit is the first half of a character. -/
def isHighHalf (unit : Nat) : Bool :=
  0xD800 ≤ unit && unit < 0xDC00

/-- Whether a unit is the second half of a character. -/
def isLowHalf (unit : Nat) : Bool :=
  0xDC00 ≤ unit && unit < 0xE000

/-- The character of two halves. -/
def joinHalves (high low : Nat) : Char :=
  Char.ofNat (0x10000 + (high - 0xD800) * 0x400 + (low - 0xDC00))

/-- The character of a number; a half is none. -/
def wideCharacter (number : Nat) : Char :=
  if number.isValidChar then Char.ofNat number else Text.Utf8.replacement

private def unitsOf (order : ByteOrder) : List UInt8 → List (Option Nat)
  | first :: second :: rest => some (numberOf order [first, second]) :: unitsOf order rest
  | [_] => [none]
  | [] => []

/-- A half before anything else than the other half is read as a replacement; so is a byte at the
end, alone or with the half before it. -/
private def readUnits : List (Option Nat) → List Char
  | [] => []
  | some first :: some second :: rest =>
    if isHighHalf first && isLowHalf second then joinHalves first second :: readUnits rest
    else wideCharacter first :: readUnits (some second :: rest)
  | some last :: none :: rest =>
    if isHighHalf last then Text.Utf8.replacement :: readUnits rest
    else wideCharacter last :: readUnits (none :: rest)
  | [some last] => [wideCharacter last]
  | none :: rest => Text.Utf8.replacement :: readUnits rest

private def readQuadruples (order : ByteOrder) : List UInt8 → List Char
  | first :: second :: third :: fourth :: rest =>
    wideCharacter (numberOf order [first, second, third, fourth]) :: readQuadruples order rest
  | [] => []
  | _ => [Text.Utf8.replacement]

/-- The characters that bytes write in an order. -/
def readOrdered (order : ByteOrder) (content : List UInt8) : Width → List Char
  | .units => readUnits (unitsOf order content)
  | .quadruples => readQuadruples order content

/-- The characters that bytes write in the order that a mark tells. Fewer bytes than a mark need
none. -/
def readMarked (content : List UInt8) (width : Width) : Except Fault (List Char) :=
  let size := match width with
    | .units => 2
    | .quadruples => 4
  let mark := content.take size
  if content.length < size then .ok (readOrdered .lowFirst content width)
  else if numberOf .lowFirst mark = 0xFEFF then
    .ok (readOrdered .lowFirst (content.drop size) width)
  else if numberOf .highFirst mark = 0xFEFF then
    .ok (readOrdered .highFirst (content.drop size) width)
  else .error .unordered

private def sextetOf? (byte : UInt8) : Option Nat :=
  Text.sextet? (Char.ofNat byte.toNat)

/-- The whole units of 16 bits in sextets, behind a number of bits and their value, and what is
left. -/
private def unitsIn (count bits : Nat) : List Nat → List Nat × Nat × Nat
  | [] => ([], count, bits)
  | sextet :: rest =>
    let count := count + 6
    let bits := bits * 64 + sextet
    if count < 16 then unitsIn count bits rest
    else
      let (units, left) := unitsIn (count - 16) (bits % 2 ^ (count - 16)) rest
      (bits / 2 ^ (count - 16) :: units, left)

/-- The characters of units, and whether a half is left. -/
private def joinUnits : List Nat → List Char × Bool
  | [] => ([], false)
  | [unit] => if isHighHalf unit then ([], true) else ([wideCharacter unit], false)
  | first :: second :: rest =>
    if isHighHalf first && isLowHalf second then
      let (characters, isHalf) := joinUnits rest
      (joinHalves first second :: characters, isHalf)
    else
      let (characters, isHalf) := joinUnits (second :: rest)
      (wideCharacter first :: characters, isHalf)

private def isSextet (byte : UInt8) : Bool :=
  (sextetOf? byte).isSome

private def plus : UInt8 := 0x2B

private def minus : UInt8 := 0x2D

private theorem length_drop_dropWhile_le (count : Nat) (test : UInt8 → Bool) (bytes : List UInt8) :
    ((bytes.dropWhile test).drop count).length ≤ bytes.length := by
  have := (List.dropWhile_suffix test (l := bytes)).length_le
  simp only [List.length_drop]
  omega

/-- The characters that bytes of seven bits write. A plus sign begins a run of letters that stand
for six bits each and write wide characters; a minus sign ends the run and is passed over. Bits that
a run leaves are read with the byte behind it as one replacement. -/
def readShifted : List UInt8 → List Char
  | [] => []
  | byte :: rest =>
    if byte = plus then
      let sextets := rest.takeWhile isSextet
      let after := rest.dropWhile isSextet
      let (units, count, bits) := unitsIn 0 0 (sextets.filterMap sextetOf?)
      let (characters, isHalf) := joinUnits units
      if after.head? = some minus && sextets.isEmpty then '+' :: readShifted (after.drop 1)
      else if 6 ≤ count || bits ≠ 0 || (sextets.isEmpty && !after.isEmpty) then
        characters ++ Text.Utf8.replacement :: readShifted (after.drop 1)
      else
        let ending := if isHalf then [Text.Utf8.replacement] else []
        let ended := if after.head? = some minus then 1 else 0
        characters ++ ending ++ readShifted (after.drop ended)
    else if byte.toNat < 0x80 then Char.ofNat byte.toNat :: readShifted rest
    else Text.Utf8.replacement :: readShifted rest
termination_by content => content.length
decreasing_by
  all_goals simp only [List.length_cons]
  all_goals first
    | exact Nat.lt_succ_of_le (length_drop_dropWhile_le _ _ _)
    | omega

end ApiCompiler.Charset
