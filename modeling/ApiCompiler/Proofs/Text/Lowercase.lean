import ApiCompiler.Text.Lowercase
import Mathlib.Tactic.Common

/-!
# Marks in lower case

Writing a text in lower case changes its letters only: every mark or digit of the small form stands
in the text, and no capital of ASCII stands in the small form. Of an ASCII text it changes the
capitals alone.
-/

namespace ApiCompiler.Text

/-- A mark or digit of the seven bits. -/
def isMark (character : Char) : Bool :=
  0x20 ≤ character.toNat && character.toNat ≤ 0x40

theorem isMark_eq_false_iff {character : Char} :
    isMark character = false ↔ character.toNat < 0x20 ∨ 0x40 < character.toNat := by
  rw [isMark, Bool.and_eq_false_iff, decide_eq_false_iff_not, decide_eq_false_iff_not,
    Nat.not_le, Nat.not_le]

/-- The character of a code has this code, or is the null character where none has it. -/
theorem toNat_ofNat_cases (code : Nat) : (Char.ofNat code).toNat = code ∨
    (Char.ofNat code).toNat = 0 := by
  by_cases valid : code.isValidChar
  · exact .inl (congrArg Char.toNat (dif_pos valid))
  · exact .inr (congrArg Char.toNat (dif_neg valid))

theorem isMark_ofNat {code : Nat} (high : 0x40 < code) : isMark (Char.ofNat code) = false := by
  rw [isMark_eq_false_iff]
  rcases toNat_ofNat_cases code with same | none
  · omega
  · omega

/-- A character that is no capital of ASCII. -/
def IsUncapped (character : Char) : Prop :=
  character.toNat < 0x41 ∨ 0x5A < character.toNat

/-- In lower case, a capital of ASCII stands for the letter 32 places on. -/
theorem toLower_cases (character : Char) :
    (0x41 ≤ character.toNat ∧ character.toNat ≤ 0x5A ∧
        character.toLower.toNat = character.toNat + 32) ∨
      IsUncapped character ∧ character.toLower = character := by
  by_cases upper : 'A'.val ≤ character.val ∧ character.val ≤ 'Z'.val
  · have lower : character.toLower.val = character.val + 32 := congrArg Char.val (dif_pos upper)
    have code : character.toLower.toNat = (character.val + 32).toNat := congrArg UInt32.toNat lower
    obtain ⟨least, most⟩ := upper
    rw [UInt32.le_iff_toNat_le] at least most
    rw [UInt32.toNat_add] at code
    simp only [Char.reduceVal, UInt32.reduceToNat, Char.toNat_val, Nat.reducePow] at least most code
    omega
  · refine .inr ⟨?_, dif_neg upper⟩
    rw [UInt32.le_iff_toNat_le, UInt32.le_iff_toNat_le] at upper
    simp only [Char.reduceVal, UInt32.reduceToNat, Char.toNat_val] at upper
    rw [IsUncapped]
    omega

theorem isMark_toLower {character : Char} (differs : character.toLower ≠ character) :
    isMark character.toLower = false := by
  rcases toLower_cases character with ⟨least, most, code⟩ | ⟨-, same⟩
  · rw [isMark_eq_false_iff]
    omega
  · exact absurd same differs

theorem eq_of_mem_smallForm {mark character : Char} (plain : isMark mark = true)
    (member : mark ∈ smallForm character) : mark = character := by
  rcases smallForm_cases character with ⟨-, own⟩ | lower | dotted | ⟨code, high, other⟩
  · rw [own] at member
    exact List.mem_singleton.mp member
  · rw [lower] at member
    obtain rfl := List.mem_singleton.mp member
    by_contra differs
    rw [isMark_toLower differs] at plain
    contradiction
  · rw [dotted, List.mem_cons, List.mem_singleton] at member
    rcases member with rfl | rfl <;> contradiction
  · rw [other] at member
    obtain rfl := List.mem_singleton.mp member
    rw [isMark_ofNat (by omega)] at plain
    contradiction

theorem isUncapped_of_mem_smallForm {character small : Char}
    (member : small ∈ smallForm character) :
    IsUncapped small := by
  unfold IsUncapped
  rcases smallForm_cases character with ⟨beyond, own⟩ | lower | dotted | ⟨code, high, other⟩
  · rw [own] at member
    obtain rfl := List.mem_singleton.mp member
    omega
  · rw [lower] at member
    obtain rfl := List.mem_singleton.mp member
    rcases toLower_cases character with ⟨least, most, code⟩ | ⟨uncapped, same⟩
    · omega
    · rw [same]
      exact uncapped
  · rw [dotted, List.mem_cons, List.mem_singleton] at member
    rcases member with rfl | rfl <;> exact .inr (by decide)
  · rw [other] at member
    obtain rfl := List.mem_singleton.mp member
    rcases toNat_ofNat_cases code with same | none
    · omega
    · omega

/-- A character of a text in lower case is a small sigma, or comes of one character of the text. -/
theorem mem_lowerFrom {small : Char} {before text : List Char}
    (member : small ∈ lowerFrom before text) :
    small = Char.ofNat 0x3C2 ∨ small = Char.ofNat 0x3C3 ∨
      ∃ character ∈ text, small ∈ smallForm character := by
  induction text generalizing before with
  | nil => cases member
  | cons character rest induction =>
      rw [lowerFrom, List.mem_append] at member
      rcases member with own | later
      · split at own
        · split at own
          · exact .inl (List.mem_singleton.mp own)
          · exact .inr (.inl (List.mem_singleton.mp own))
        · exact .inr (.inr ⟨character, List.mem_cons_self, own⟩)
      · rcases induction later with final | inner | ⟨source, held, made⟩
        · exact .inl final
        · exact .inr (.inl inner)
        · exact .inr (.inr ⟨source, List.mem_cons_of_mem _ held, made⟩)

/-- A mark or digit of a text in lower case stands in the text. -/
theorem mem_of_mem_lowercase {mark : Char} (plain : isMark mark = true) {text : List Char}
    (member : mark ∈ lowercase text) : mark ∈ text := by
  rcases mem_lowerFrom member with rfl | rfl | ⟨character, held, made⟩
  · contradiction
  · contradiction
  · rw [eq_of_mem_smallForm plain made]
    exact held

/-- No capital of ASCII stands in a text in lower case. -/
theorem isUncapped_of_mem_lowercase {small : Char} {text : List Char}
    (member : small ∈ lowercase text) :
    IsUncapped small := by
  rcases mem_lowerFrom member with rfl | rfl | ⟨character, -, made⟩
  · exact .inr (by decide)
  · exact .inr (by decide)
  · exact isUncapped_of_mem_smallForm made

theorem lowercase_eq {text : List Char} (ascii : ∀ character ∈ text, character.toNat < 0x80) :
    lowercase text = text.map Char.toLower := by
  have each : ∀ before, lowerFrom before text = text.map Char.toLower := by
    induction text with
    | nil => exact fun _ => rfl
    | cons character text induction =>
        intro before
        obtain ⟨first, others⟩ := List.forall_mem_cons.mp ascii
        have plain : (character.toNat == 0x3A3) = false := by
          rw [beq_eq_false_iff_ne]
          omega
        rw [lowerFrom, plain, induction others]
        simp [smallForm, first]
  exact each []

/-- An ASCII text without capitals is in lower case. -/
theorem lowercase_eq_self {text : List Char}
    (small : ∀ character ∈ text, character.toNat < 0x80 ∧ IsUncapped character) :
      lowercase text = text := by
  rw [lowercase_eq fun character member => (small character member).1]
  refine (List.map_congr_left fun character member => ?_).trans (List.map_id text)
  rcases toLower_cases character with ⟨least, most, -⟩ | ⟨-, same⟩
  · have uncapped := (small character member).2
    unfold IsUncapped at uncapped
    omega
  · exact same

end ApiCompiler.Text
