import ApiCompiler.Proofs.Text.Returns
import ApiCompiler.Wire.Percent

/-!
# Characters behind percent escapes

Escaping leaves only characters that are safe, and leaves a text of such characters alone.
-/

namespace ApiCompiler.Wire

open Text

/-- What is checked of each code of ASCII holds of all characters of ASCII. -/
theorem forall_ascii (test : Char → Prop) (each : ∀ code : Fin 0x80, test (Char.ofNat code))
    {character : Char} (ascii : character.toNat < 0x80) : test character := by
  have same := each ⟨character.toNat, ascii⟩
  rwa [Char.ofNat_toNat] at same

/-- The characters that escapes are written in. -/
def escapeCharacters : List Char :=
  "%0123456789ABCDEF*".toList

theorem escapeByte_subset (byte : UInt8) : escapeByte byte ⊆ escapeCharacters := by
  intro character member
  rcases List.mem_cons.mp member with rfl | digit
  · decide
  · obtain ⟨source, held, rfl⟩ := List.mem_map.mp digit
    exact forall_mem_hexDigits (·.toUpper ∈ escapeCharacters) (by decide) _ _ source held

section Encode

variable {isSafe : Char → Bool}

/-- Whatever stands in an escaped text is safe. -/
theorem isSafe_of_mem_percentEncode (escapes : ∀ character ∈ escapeCharacters, isSafe character)
    (text : List Char) : ∀ character ∈ percentEncode isSafe text, isSafe character = true := by
  intro character member
  obtain ⟨source, -, written⟩ := List.mem_flatMap.mp member
  split at written
  · rename_i safe
    rwa [List.mem_singleton.mp written]
  · obtain ⟨byte, -, digit⟩ := List.mem_flatMap.mp written
    exact escapes character (escapeByte_subset byte digit)

/-- Nothing is escaped where all is safe. -/
theorem percentEncode_eq_self {text : List Char}
    (safe : ∀ character ∈ text, isSafe character = true) :
    percentEncode isSafe text = text := by
  induction text with
  | nil => rfl
  | cons character text induction =>
      obtain ⟨first, others⟩ := List.forall_mem_cons.mp safe
      rw [percentEncode, List.flatMap_cons, if_pos first]
      exact congrArg (character :: ·) (induction others)

/-- A character that is escaped leaves a percent sign. -/
theorem percent_mem_flatMap_escapeByte (character : Char) :
    '%' ∈ (String.utf8EncodeChar character).flatMap escapeByte := by
  have some : String.utf8EncodeChar character ≠ [] := by
    intro none
    have size := String.length_utf8EncodeChar character
    rw [none] at size
    exact absurd size (Nat.ne_of_lt character.utf8Size_pos)
  obtain ⟨byte, bytes, written⟩ := List.exists_cons_of_ne_nil some
  rw [written]
  exact List.mem_append_left _ List.mem_cons_self

/-- A text that is written without percent signs is written as it is. -/
theorem percentEncode_eq_self_of_not_mem {text : List Char}
    (absent : '%' ∉ percentEncode isSafe text) :
    percentEncode isSafe text = text := by
  refine percentEncode_eq_self fun character member => ?_
  by_contra foreign
  refine absent (List.mem_flatMap.mpr ⟨character, member, ?_⟩)
  rw [if_neg foreign]
  exact percent_mem_flatMap_escapeByte character

/-- Escaping keeps the pieces between slashes. -/
theorem splitAt_percentEncode (safe : isSafe '/' = true) (text : List Char) :
    splitAt '/' (percentEncode isSafe text) = (splitAt '/' text).map (percentEncode isSafe) := by
  refine splitAt_flatMap (if_pos safe) (fun character other => ?_) text
  split
  · rw [List.mem_singleton]
    exact Ne.symm other
  · intro member
    obtain ⟨byte, -, digit⟩ := List.mem_flatMap.mp member
    exact absurd (escapeByte_subset byte digit) (by decide)

end Encode

theorem isPathSafe_of_mem_percentEncode (text : List Char) :
    ∀ character ∈ percentEncode isPathSafe text, isPathSafe character = true :=
  isSafe_of_mem_percentEncode (List.all_eq_true.mp (by decide)) text

theorem isHostSafe_of_mem_percentEncode (text : List Char) :
    ∀ character ∈ percentEncode isHostSafe text, isHostSafe character = true :=
  isSafe_of_mem_percentEncode (List.all_eq_true.mp (by decide)) text

theorem toNat_lt_of_le {character last : Char} (below : character ≤ last)
    (ascii : last.toNat < 0x80) :
    character.toNat < 0x80 :=
  Nat.lt_of_le_of_lt (UInt32.le_iff_toNat_le.mp below) ascii

theorem ascii_of_isHostSafe {character : Char} (safe : isHostSafe character = true) :
    character.toNat < 0x80 := by
  have ascii :
      ("-._~".toList ++ "!$&'()*+,;=\"`\x7b\x7d%|\\".toList).all (·.toNat < 0x80) = true := by
    decide
  have marks (mark : Char)
      (listed : mark ∈ "-._~".toList ++ "!$&'()*+,;=\"`\x7b\x7d%|\\".toList) : mark.toNat < 0x80 :=
    of_decide_eq_true (List.all_eq_true.mp ascii mark listed)
  simp only [isHostSafe, isUnreserved, isAsciiLetter, isDigit, Bool.or_eq_true, Bool.and_eq_true,
    decide_eq_true_eq, List.contains_iff_mem] at safe
  rcases safe with (((letter | capital) | digit) | mark) | mark
  · exact toNat_lt_of_le letter.2 (by decide)
  · exact toNat_lt_of_le capital.2 (by decide)
  · exact toNat_lt_of_le digit.2 (by decide)
  · exact marks character (List.mem_append_left _ mark)
  · exact marks character (List.mem_append_right _ mark)

/-- Of the characters that hosts are written in, none ends a host. -/
theorem not_mem_of_isHostSafe {character : Char} (safe : isHostSafe character = true) :
    character ∉ ['@', ':', '[', ']'] := by
  intro member
  simp only [List.mem_cons, List.not_mem_nil, or_false] at member
  rcases member with rfl | rfl | rfl | rfl <;> exact absurd safe (by decide)

theorem isHostSafe_toLower {character : Char} (safe : isHostSafe character = true) :
    isHostSafe character.toLower = true :=
  forall_ascii (fun character => isHostSafe character = true → isHostSafe character.toLower = true)
    (by decide +kernel) (ascii_of_isHostSafe safe) safe

end ApiCompiler.Wire
