import ApiCompiler.Proofs.Text.Quoted
import ApiCompiler.Text.Digit
import Mathlib.Data.Nat.Digits.Defs

/-!
# Literals

What a literal on one line stands for: the characters between two equal marks, with every escape
read as the character that it names. A quoted text is such a literal, and stands for the text that
was quoted.
-/

namespace ApiCompiler.Text

/-- The letters that name a character behind a backslash. -/
def escapeNames : List (Char × Char) := [
  ('\\', '\\'), ('\'', '\''), ('"', '"'), ('a', '\x07'), ('b', '\x08'), ('f', '\x0c'), ('n', '\n'),
  ('r', '\r'), ('t', '\t'), ('v', '\x0b')]

/-- The character of a code; halves of surrogate pairs and what is beyond the last plane are codes
of none. -/
def characterOfCode? (code : Nat) : Option Char :=
  if code.isValidChar then some (Char.ofNat code) else none

/-- The character whose code is written with exactly so many digits, and what follows it. -/
def takeCode (width : Nat) (text : List Char) : Option (Char × List Char) := do
  let digits ← (text.take width).mapM (baseDigit? 16)
  let character ← characterOfCode? (digitsValue 16 digits)
  if digits.length = width then some (character, text.drop width) else none

/-- The digits in base eight at the start of a text, of which at most three belong together. -/
def octalDigits (text : List Char) : List Nat :=
  ((text.take 3).map (baseDigit? 8)).takeWhile Option.isSome |>.reduceOption

/-- What a backslash and the text behind it stand for, and what follows that. A character that is
escaped by its name is not read, and no line ends inside of an escape. -/
def readEscape : List Char → Option (Char × List Char)
  | [] => none
  | letter :: rest =>
    match escapeNames.lookup letter, codeEscapes.lookup letter with
    | some character, _ => some (character, rest)
    | none, some width => takeCode width rest
    | none, none =>
      if letter ∈ ['N', '\n', '\r'] then none
      else match octalDigits (letter :: rest) with
        | [] => some ('\\', letter :: rest)
        | digits => some (Char.ofNat (digitsValue 8 digits), (letter :: rest).drop digits.length)

/-- The first character that a text inside of a literal stands for, and what follows it. -/
def readCharacter : List Char → Option (Char × List Char)
  | [] => none
  | '\\' :: rest => readEscape rest
  | character :: rest => if character ∈ ['\n', '\r', '\x00'] then none else some (character, rest)

theorem length_le_of_takeCode {width : Nat} {text rest : List Char} {character : Char}
    (taken : takeCode width text = some (character, rest)) : rest.length ≤ text.length := by
  simp only [takeCode, Option.bind_eq_bind, Option.bind_eq_some_iff] at taken
  obtain ⟨digits, -, read, -, chosen⟩ := taken
  split at chosen
  · cases chosen
    exact (List.drop_sublist _ _).length_le
  · contradiction

theorem length_le_of_readEscape {text rest : List Char} {character : Char}
    (read : readEscape text = some (character, rest)) : rest.length ≤ text.length := by
  unfold readEscape at read
  split at read
  · contradiction
  · split at read
    · cases read
      exact Nat.le_succ _
    · exact Nat.le_succ_of_le (length_le_of_takeCode read)
    · split at read
      · contradiction
      · split at read
        · cases read
          exact Nat.le_refl _
        · cases read
          exact (List.drop_sublist _ _).length_le

theorem length_lt_of_readCharacter {text rest : List Char} {character : Char}
    (read : readCharacter text = some (character, rest)) : rest.length < text.length := by
  unfold readCharacter at read
  split at read
  · contradiction
  · exact Nat.lt_succ_of_le (length_le_of_readEscape read)
  · split at read
    · contradiction
    · cases read
      exact Nat.lt_succ_self _

/-- What stands for the rest of a literal: its characters up to a mark that nothing follows. -/
def contentTo (mark : Char) (text : List Char) : Option (List Char) :=
  if text = [mark] then some []
  else if text.head? = some mark then none
  else match _ : readCharacter text with
    | none => none
    | some (character, rest) => (character :: ·) <$> contentTo mark rest
termination_by text.length
decreasing_by exact length_lt_of_readCharacter ‹_›

theorem contentTo_of_read {mark character : Char} {text rest : List Char}
    (unmarked : text.head? ≠ some mark) (read : readCharacter text = some (character, rest)) :
    contentTo mark text = (character :: ·) <$> contentTo mark rest := by
  have more : text ≠ [mark] := by
    rintro rfl
    exact unmarked rfl
  rw [contentTo, if_neg more, if_neg unmarked]
  split
  · next none => rw [none] at read; contradiction
  · next found =>
    rw [found] at read
    cases read
    rfl

/-- The text that a literal on one line stands for. -/
def readLiteral : List Char → Option (List Char)
  | [] => none
  | mark :: rest => if mark ∈ ['\'', '"'] then contentTo mark rest else none

example : readLiteral "'a\\x41\\q\\101'".toList = some "aA\\qA".toList := by
  cbv

example : readLiteral "'a'b'".toList = none := by
  cbv

/-- The number that digits in base sixteen write. -/
def hexNumber (digits : List Char) : Nat :=
  digitsValue 16 (digits.map fun digit => (baseDigit? 16 digit).getD 0)

theorem baseDigit?_digitChar {digit : Nat} (small : digit < 16) :
    baseDigit? 16 (Nat.digitChar digit) = some digit := by
  have each : ∀ digit : Fin 16, baseDigit? 16 (Nat.digitChar digit) = some digit.val := by decide
  exact each ⟨digit, small⟩

theorem hexNumber_append_singleton (digits : List Char) {digit : Nat} (small : digit < 16) :
    hexNumber (digits ++ [Nat.digitChar digit]) = hexNumber digits * 16 + digit := by
  simp [hexNumber, digitsValue, baseDigit?_digitChar small]

theorem hexNumber_toDigits (number : Nat) : hexNumber (Nat.toDigits 16 number) = number := by
  induction number using Nat.strong_induction_on with
  | _ number induction =>
      by_cases small : number < 16
      · rw [Nat.toDigits_of_lt_base small, ← List.nil_append [_],
          hexNumber_append_singleton _ small]
        simp [hexNumber, digitsValue]
      · rw [Nat.toDigits_of_base_le (by omega) (by omega),
          hexNumber_append_singleton _ (Nat.mod_lt number (by omega)),
          induction (number / 16) (by omega)]
        omega

theorem hexNumber_hexDigits (width number : Nat) : hexNumber (hexDigits width number) = number := by
  have zeros (count : Nat) (digits : List Char) :
      hexNumber (List.replicate count '0' ++ digits) = hexNumber digits := by
    have zero : baseDigit? 16 '0' = some 0 := by decide
    induction count with
    | zero => rfl
    | succ count induction =>
        rw [List.replicate_succ, List.cons_append, ← induction]
        simp [hexNumber, digitsValue, zero]
  rw [hexDigits, zeros, hexNumber_toDigits]

theorem length_hexDigits {width number : Nat} (wide : 0 < width) (fits : number < 16 ^ width) :
    (hexDigits width number).length = width := by
  have short := (Nat.length_toDigits_le_iff (by omega) wide).mpr fits
  rw [hexDigits, List.length_append, List.length_replicate]
  omega

theorem mapM_baseDigit? {digits : List Char}
    (each : ∀ digit ∈ digits, (baseDigit? 16 digit).isSome) :
    digits.mapM (baseDigit? 16) = some (digits.map fun digit => (baseDigit? 16 digit).getD 0) := by
  induction digits with
  | nil => rfl
  | cons digit digits induction =>
      obtain ⟨first, others⟩ := List.forall_mem_cons.mp each
      obtain ⟨value, read⟩ := Option.isSome_iff_exists.mp first
      rw [List.mapM_cons, induction others, List.map_cons, read]
      rfl

theorem characterOfCode?_toNat (character : Char) :
    characterOfCode? character.toNat = some character := by
  have valid : character.toNat.isValidChar := character.valid
  rw [characterOfCode?, if_pos valid, Char.ofNat_toNat]

/-- The code of a character is read back, whatever follows. -/
theorem takeCode_hexDigits {width : Nat} (wide : 0 < width) {character : Char}
    (fits : character.toNat < 16 ^ width) (rest : List Char) :
    takeCode width (hexDigits width character.toNat ++ rest) = some (character, rest) := by
  have whole := length_hexDigits wide fits
  have digits := mapM_baseDigit? (forall_mem_hexDigits (fun digit => (baseDigit? 16 digit).isSome)
    (by decide) width character.toNat)
  have value := hexNumber_hexDigits width character.toNat
  rw [hexNumber] at value
  rw [takeCode, List.take_left' whole, List.drop_left' whole, digits]
  simp only [Option.bind_eq_bind, Option.bind_some, value, characterOfCode?_toNat,
    List.length_map, whole, if_true]

section Marked

variable {mark character : Char} {text : List Char} (marks : mark = '\'' ∨ mark = '"')

include marks

/-- What is written for a character is read back, whatever follows. -/
theorem Writes.read (written : Writes mark character text) (rest : List Char) :
    readCharacter (text ++ rest) = some (character, rest) := by
  cases written with
  | plain printable unescaping _ =>
      have inner : character ∉ ['\n', '\r', '\x00'] := by
        intro among
        simp only [List.mem_cons, List.not_mem_nil, or_false] at among
        rcases among with rfl | rfl | rfl <;> exact absurd printable (by decide)
      rw [List.singleton_append, readCharacter]
      · rw [if_neg inner]
      · exact unescaping
  | marked among =>
      rcases among with rfl | rfl
      · rcases marks with rfl | rfl <;> rfl
      · rfl
  | letter among =>
      have named : ∀ escape ∈ letterEscapes, escapeNames.lookup escape.1 =
        some escape.2 := by decide
      rw [List.cons_append, List.singleton_append, readCharacter, readEscape, named _ among]
  | code among fits =>
      have widths : ∀ escape ∈ codeEscapes, 0 < escape.2 ∧ escapeNames.lookup escape.1 = none ∧
          codeEscapes.lookup escape.1 = some escape.2 := by decide
      obtain ⟨wide, unnamed, width⟩ := widths _ among
      rw [List.cons_append, List.cons_append, readCharacter, readEscape, unnamed, width]
      exact takeCode_hexDigits wide fits rest

/-- No character is written so that it starts with its mark. -/
theorem Writes.head?_ne (written : Writes mark character text) (rest : List Char) :
    (text ++ rest).head? ≠ some mark := by
  have backslash : '\\' ≠ mark := by
    rcases marks with rfl | rfl <;> decide
  cases written with
  | plain _ _ unmarked => simpa using unmarked
  | marked _ => simpa using backslash
  | letter _ => simpa using backslash
  | code _ _ => simpa using backslash

/-- Characters one after another are read back up to the mark behind them. -/
theorem contentTo_flatMap_quoteCharacter (characters : List Char) :
    contentTo mark (characters.flatMap (quoteCharacter mark) ++ [mark]) = some characters := by
  induction characters with
  | nil => rw [List.flatMap_nil, List.nil_append, contentTo, if_pos rfl]
  | cons character characters induction =>
      have written := writes_quoteCharacter mark character
      rw [List.flatMap_cons, List.append_assoc,
        contentTo_of_read (written.head?_ne marks _) (written.read marks _), induction]
      rfl

end Marked

theorem readLiteral_quote (text : List Char) : readLiteral (quote text) = some text := by
  have marks := quoteMark_eq text
  have among : quoteMark text ∈ ['\'', '"'] := by
    simpa using marks
  rw [quote, List.cons_append, readLiteral, if_pos among]
  exact contentTo_flatMap_quoteCharacter marks text

/-- A quoted text stands on one line and is one literal: it opens and ends with a mark, every mark
in between is escaped, and what the literal stands for is the text that was quoted. -/
theorem literal_of_quoted (text : String) :
    (∀ character ∈ (quoted text).toList, character ≠ '\n' ∧ character ≠ '\r') ∧
      (∃ mark ∈ ['\'', '"'], ∃ body, (quoted text).toList = mark :: body ++ [mark] ∧
        Sealed mark body) ∧
        readLiteral (quoted text).toList = some text.toList := by
  rw [quoted, String.toList_ofList]
  refine ⟨unbroken_quote text.toList, ?_, readLiteral_quote text.toList⟩
  exact ⟨quoteMark text.toList, by simpa using quoteMark_eq text.toList, _, rfl,
    sealed_flatMap_quoteCharacter text.toList⟩

end ApiCompiler.Text
