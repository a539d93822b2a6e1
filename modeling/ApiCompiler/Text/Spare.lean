import ApiCompiler.Text.Digit
import ApiCompiler.Text.Quoted
import ApiCompiler.Text.Utf8

/-!
# Spare characters

Escapes may write half a surrogate pair on its own, and a part of a document may be named inside of
itself. Neither is anything that a text could hold, and characters stand for both: one and the same
for all of them, one that no file is named with, or those of a row that nothing else is written
with. Rows lie in the planes that hold no characters.

A text that was made with the characters of a row is spelled without them. Where one of them is
quoted by its number, the escape of its half takes the place; where it stands as it is, the text has
no spelling.
-/

namespace ApiCompiler.Text

/-- The characters that stand for what is none. -/
class Spares where
  /-- What half a surrogate pair is read as, by its code. -/
  half (code : Nat) : Char
  /-- What is read in place of a part that is inside of itself. -/
  loop : Char

namespace Spares

/-- Nothing is told apart. -/
instance : Spares where
  half _ := Utf8.replacement
  loop := Utf8.replacement

/-- What names a file is told from what names none. The null character stands for the halves that
are in no name, which are all but those that stand for single bytes. -/
@[reducible]
def forNames : Spares where
  half code := if 0xDC80 ≤ code ∧ code ≤ 0xDCFF then Utf8.replacement else '\x00'
  loop := Utf8.replacement

/-- The characters of a row: one for each half, and one more. -/
def width : Nat := 0x801

/-- All are told apart. -/
@[reducible]
def row (first : Nat) : Spares where
  half code := Char.ofNat (first + (code - 0xD800))
  loop := Char.ofNat (first + 0x800)

/-- Where rows start. -/
def starts : List Nat :=
  (List.range 319).map fun place => 0x40000 + place * width

/-- A row that none of some codes lies in. -/
def freeStart? (codes : List Nat) : Option Nat :=
  starts.find? fun first => codes.all fun code => code < first || first + width ≤ code

/-- The half that the code of a character of a row stands for. -/
def halfOf? (first code : Nat) : Option Nat :=
  if first ≤ code ∧ code < first + 0x800 then some (0xD800 + (code - first)) else none

/-- The half that a long escape stands for, behind its backslash. -/
def escapedHalf? (first : Nat) : List Char → Option Nat
  | 'U' :: digits => do
    let values ← (digits.take 8).mapM (baseDigit? 16)
    halfOf? first (digitsValue 16 values)
  | _ => none

/-- The spelling of a text without the characters of a row, behind some characters to pass over. -/
def respell (first : Nat) : Nat → List Char → Option (List Char)
  | _, [] => some []
  | passed + 1, _ :: rest => respell first passed rest
  | 0, '\\' :: rest =>
    match escapedHalf? first rest with
    | some half => (escapeCode half ++ ·) <$> respell first 9 rest
    | none =>
      -- A backslash that is quoted itself begins no escape.
      if rest.head? = some '\\' then (['\\', '\\'] ++ ·) <$> respell first 1 rest
      else ('\\' :: ·) <$> respell first 0 rest
  | 0, character :: rest =>
    if (halfOf? first character.toNat).isSome then none
    else (character :: ·) <$> respell first 0 rest

variable {first : Nat}

theorem apart_of_freeStart? {codes : List Nat} (found : freeStart? codes = some first) :
    first ∈ starts ∧ ∀ code ∈ codes, code < first ∨ first + width ≤ code := by
  refine ⟨List.mem_of_find?_eq_some found, ?_⟩
  simpa using List.find?_some found

theorem toNat_ofNat_of_mem_starts (start : first ∈ starts) {offset : Nat}
    (within : offset < width) :
    (Char.ofNat (first + offset)).toNat = first + offset := by
  obtain ⟨place, inside, rfl⟩ := List.mem_map.mp start
  have below := List.mem_range.mp inside
  have valid : (0x40000 + place * width + offset).isValidChar := by
    unfold width at *
    exact .inr ⟨by omega, by omega⟩
  rw [Char.ofNat, dif_pos valid]
  rfl

/-- Each half is told by the character that stands for it. -/
theorem halfOf?_half (start : first ∈ starts) {code : Nat} (low : 0xD800 ≤ code)
    (high : code ≤ 0xDFFF) :
    halfOf? first ((row first).half code).toNat = some code := by
  have stands : ((row first).half code).toNat = first + (code - 0xD800) :=
    toNat_ofNat_of_mem_starts start (by unfold width; omega)
  rw [halfOf?, stands, if_pos (by omega)]
  exact congrArg some (by omega)

/-- What lies apart from a row stands for no half. -/
theorem halfOf?_eq_none {code : Nat} (apart : code < first ∨ first + width ≤ code) :
    halfOf? first code = none := by
  unfold width at apart
  exact if_neg (by omega)

/-- In a row that is free of some codes, these stand for no half, and each half is told by its
character. -/
theorem halfOf?_of_freeStart? {codes : List Nat} (found : freeStart? codes = some first) :
    (∀ code ∈ codes, halfOf? first code = none) ∧
      ∀ code, 0xD800 ≤ code → code ≤ 0xDFFF →
        halfOf? first ((row first).half code).toNat = some code := by
  obtain ⟨start, apart⟩ := apart_of_freeStart? found
  exact ⟨fun code member => halfOf?_eq_none (apart code member),
    fun code low high => halfOf?_half start low high⟩

end Spares

end ApiCompiler.Text
