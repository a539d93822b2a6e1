import ApiCompiler.Charset.Japanese
import ApiCompiler.Charset.Korean
import ApiCompiler.Charset.Simplified
import ApiCompiler.Charset.Traditional
import ApiCompiler.Text.Utf8

/-!
# Charsets of pairs

Charsets in which one byte writes ASCII and two bytes most other characters. The two bytes are the
row and the place of a character. A byte that begins none is read as a replacement, and so are bytes
that end too early.
-/

namespace ApiCompiler.Charset

/-- A charset of pairs, by the name of its standard. -/
inductive Pairing where
  | gb2312
  | gbk
  | gb18030
  | big5
  | cp950
  | eucKr
  | cp949
  | shiftJis
  | cp932
  | eucJp
deriving Repr, DecidableEq

namespace Pairing

/-- The character that a byte begins with those behind it, and how many of these it takes. -/
abbrev Step := Nat → List Nat → Option (Char × Nat)

/-- The character that two bytes write. -/
abbrev Pairs := Nat → Nat → Option Char

private def charAt? (rows : List String) (row place : Nat) : Option Char :=
  match (rows.getD row "").toList[place]? with
  | some ' ' => none
  | found => found

private def runAt? (runs : List (Nat × Nat × String)) (row place : Nat) : Option Char :=
  runs.findSome? fun (runRow, start, characters) =>
    if runRow = row && start ≤ place then characters.toList[place - start]? else none

private def mark (first : Nat) (marks : Array Bool) (character : Char) : Array Bool :=
  if first ≤ character.toNat then marks.setIfInBounds (character.toNat - first) true else marks

/-- The characters between two codes that are not in the rows, in order. -/
private def unlisted (first last : Nat) (rows : List String) : Array Char :=
  let width := last + 1 - first
  let listed :=
    rows.foldl (fun marks row => row.foldl (mark first) marks) (Array.replicate width false)
  let isLeft (place : Nat) := !listed.getD place true && (first + place).isValidChar
  (((List.range width).filter isLeft).map fun place => Char.ofNat (first + place)).toArray

/-- A pair whose bytes are both in the upper half. -/
private def squareAt? (rows : List String) (lead trail : Nat) : Option Char :=
  if 0xA1 ≤ lead && 0xA1 ≤ trail then charAt? rows (lead - 0xA1) (trail - 0xA1) else none

/-- The place of a second byte that may be in both halves, without the one between them. -/
private def wideColumn (trail : Nat) : Nat :=
  if trail < 0x7F then trail - 0x40 else trail - 0x41

private def isWide (trail : Nat) : Bool :=
  (0x40 ≤ trail && trail < 0x7F) || (0x80 ≤ trail && trail < 0xFF)

/-- The ideographs that are not in the square, in order, on the places beside it. -/
private def besideSquare (others : Array Char) (lead trail : Nat) : Option Char :=
  if !isWide trail then none
  else if 0x81 ≤ lead && lead ≤ 0xA0 then others[(lead - 0x81) * 190 + wideColumn trail]?
  else if 0xAA ≤ lead && lead ≤ 0xFE && trail ≤ 0xA0 then
    others[0x20 * 190 + (lead - 0xAA) * 96 + wideColumn trail]?
  else none

/-- Characters for private use, on the places that are left. -/
private def forPrivateUse (lead trail : Nat) : Option Char :=
  if !isWide trail then none
  else if 0xAA ≤ lead && lead ≤ 0xAF && 0xA1 ≤ trail then
    some (Char.ofNat (0xE000 + (lead - 0xAA) * 94 + (trail - 0xA1)))
  else if 0xF8 ≤ lead && lead ≤ 0xFE && 0xA1 ≤ trail then
    some (Char.ofNat (0xE234 + (lead - 0xF8) * 94 + (trail - 0xA1)))
  else if 0xA1 ≤ lead && lead ≤ 0xA7 && trail ≤ 0xA0 then
    some (Char.ofNat (0xE4C6 + (lead - 0xA1) * 96 + wideColumn trail))
  else none

private def extendedPair (others : Array Char) : Pairs := fun lead trail =>
  runAt? extendedSimplified lead trail <|> squareAt? simplifiedRows lead trail <|>
    besideSquare others lead trail

private def fullPair (others : Array Char) : Pairs := fun lead trail =>
  runAt? fullSimplified lead trail <|> extendedPair others lead trail <|> forPrivateUse lead trail

private def otherIdeographs (_ : Unit) : Array Char :=
  unlisted 0x4E00 0x9FA5 simplifiedRows

private def traditionalPair : Pairs := fun lead trail =>
  if lead < 0xA1 then none
  else if 0x40 ≤ trail && trail < 0x7F then
    charAt? traditionalRows (2 * (lead - 0xA1)) (trail - 0x40)
  else if 0xA1 ≤ trail then charAt? traditionalRows (2 * (lead - 0xA1) + 1) (trail - 0xA1)
  else none

/-- The place of a second byte among letters and the upper half. -/
private def letterColumn? (trail : Nat) : Option Nat :=
  if 0x41 ≤ trail && trail ≤ 0x5A then some (trail - 0x41)
  else if 0x61 ≤ trail && trail ≤ 0x7A then some (trail - 0x47)
  else if 0x81 ≤ trail && trail ≤ 0xFE then some (trail - 0x4D)
  else none

/-- The syllables that are not in the square, in order, on the places before it. -/
private def beforeSquare (others : Array Char) (lead trail : Nat) : Option Char := do
  let column ← letterColumn? trail
  if 0x81 ≤ lead && lead ≤ 0xA0 then others[(lead - 0x81) * 178 + column]?
  else if 0xA1 ≤ lead && column < 84 then others[0x20 * 178 + (lead - 0xA1) * 84 + column]?
  else none

private def unifiedPair (others : Array Char) : Pairs := fun lead trail =>
  squareAt? koreanRows lead trail <|> beforeSquare others lead trail

/-- The filler of syllables is none of the narrow charset. -/
private def narrowKoreanPair : Pairs := fun lead trail =>
  if lead = 0xA4 && trail = 0xD4 then none else squareAt? koreanRows lead trail

private def otherSyllables (_ : Unit) : Array Char :=
  unlisted 0xAC00 0xD7A3 koreanRows

/-- The row and the place that two shifted bytes stand for. -/
private def shiftedPlace? (lead trail : Nat) : Option (Nat × Nat) :=
  let place (lead : Nat) := some (2 * lead + wideColumn trail / 94, wideColumn trail % 94)
  if !isWide trail || 0xFC < trail then none
  else if 0x81 ≤ lead && lead ≤ 0x9F then place (lead - 0x81)
  else if 0xE0 ≤ lead && lead ≤ 0xFC then place (lead - 0xC1)
  else none

private def shiftedPair : Pairs := fun lead trail => do
  let (row, place) ← shiftedPlace? lead trail
  charAt? japaneseRows row place

private def extendedShiftedPair : Pairs := fun lead trail => do
  let (row, place) ← shiftedPlace? lead trail
  if 94 ≤ row && row < 114 then return Char.ofNat (0xE000 + (row - 94) * 94 + place)
  runAt? extendedJapanese row place <|> charAt? japaneseRows row place

private def halfWidth? (byte : Nat) : Option Char :=
  if 0xA1 ≤ byte && byte ≤ 0xDF then some (Char.ofNat (0xFF61 + (byte - 0xA1))) else none

private def extendedHalfWidth? (byte : Nat) : Option Char :=
  if byte = 0x80 then some (Char.ofNat byte)
  else if byte = 0xA0 then some (Char.ofNat 0xF8F0)
  else if 0xFD ≤ byte then some (Char.ofNat (0xF8F1 + (byte - 0xFD)))
  else halfWidth? byte

private def unshiftedPair : Pairs := fun lead trail =>
  if lead = 0x8E then halfWidth? trail else squareAt? japaneseRows lead trail

private def stepBy (pair? : Pairs) (single? : Nat → Option Char) : Step := fun byte rest =>
  if byte < 0x80 then some (Char.ofNat byte, 0)
  else match single? byte, rest with
    | some character, _ => some (character, 0)
    | none, next :: _ => (pair? byte next).map (·, 1)
    | none, [] => none

private def noSingle (_ : Nat) : Option Char := none

private def isDecimalDigit (byte : Nat) : Bool :=
  0x30 ≤ byte && byte ≤ 0x39

/-- Four bytes write what is left: first the characters up to 16 bits, and from a number on all
others. -/
private def quadruple? (others : Array Char) (first second third fourth : Nat) : Option Char :=
  let isLead (byte : Nat) := 0x81 ≤ byte && byte ≤ 0xFE
  let number :=
    ((first - 0x81) * 10 + (second - 0x30)) * 1260 + (third - 0x81) * 10 + (fourth - 0x30)
  if !(isLead first && isLead third && isDecimalDigit fourth) then none
  else if number < 189000 then others[number]?
  else if number - 189000 < 0x100000 then some (Char.ofNat (0x10000 + (number - 189000)))
  else none

/-- The characters of 16 bits that no two bytes write. -/
private def unpaired (pair? : Pairs) : Array Char :=
  let written (lead : Nat) := String.ofList ((List.range 0xFF).filterMap (pair? lead))
  unlisted 0x80 0xFFFF ((List.range 0xFF).map written)

private def stepFull (pair? : Pairs) (others : Array Char) : Step := fun byte rest =>
  match rest with
  | second :: third :: fourth :: _ =>
    if 0x80 ≤ byte && isDecimalDigit second then
      (quadruple? others byte second third fourth).map (·, 3)
    else stepBy pair? noSingle byte rest
  | second :: _ =>
    if 0x80 ≤ byte && isDecimalDigit second then some (Text.Utf8.replacement, rest.length)
    else stepBy pair? noSingle byte rest
  | [] => stepBy pair? noSingle byte rest

private def stepUnshifted : Step := fun byte rest =>
  match rest with
  | second :: third :: _ =>
    if byte = 0x8F then (squareAt? moreJapaneseRows second third).map (·, 2)
    else stepBy unshiftedPair noSingle byte rest
  | _ =>
    if byte = 0x8F then some (Text.Utf8.replacement, rest.length)
    else stepBy unshiftedPair noSingle byte rest

private def readBy (step : Step) : List Nat → List Char
  | [] => []
  | byte :: rest =>
    match step byte rest with
    | some (character, more) => character :: readBy step (rest.drop more)
    | none => Text.Utf8.replacement :: readBy step rest
termination_by bytes => bytes.length

private def step : Pairing → Step
  | .gb2312 => stepBy (squareAt? simplifiedRows) noSingle
  | .gbk => stepBy (extendedPair (otherIdeographs ())) noSingle
  | .gb18030 =>
    let pair? := fullPair (otherIdeographs ())
    stepFull pair? (unpaired pair?)
  | .big5 => stepBy traditionalPair noSingle
  | .cp950 =>
    stepBy (fun lead trail =>
      runAt? extendedTraditional lead trail <|> traditionalPair lead trail) noSingle
  | .eucKr => stepBy narrowKoreanPair noSingle
  | .cp949 => stepBy (unifiedPair (otherSyllables ())) noSingle
  | .shiftJis => stepBy shiftedPair halfWidth?
  | .cp932 => stepBy extendedShiftedPair extendedHalfWidth?
  | .eucJp => stepUnshifted

/-- The characters that bytes write. -/
def read (pairing : Pairing) (content : List UInt8) : List Char :=
  readBy pairing.step (content.map UInt8.toNat)

end Pairing

end ApiCompiler.Charset
