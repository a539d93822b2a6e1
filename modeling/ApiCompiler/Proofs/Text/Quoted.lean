import ApiCompiler.Text.Quoted
import Mathlib.Algebra.Group.Nat.Defs
import Mathlib.Tactic.Common

/-!
# Quoted texts

How each character of a quoted text is written: as itself, behind a backslash, by a letter, or by
its code. From these four ways it follows that a quoted text stands on one line, and that what
stands between its marks is sealed: read from the opening mark on, every mark in it is escaped.
-/

namespace ApiCompiler.Text

/-- A text that can stand in an open literal: gone through with every backslash taking the next
character along, it has no mark, and it does not stop behind a backslash that still waits for what
it escapes. -/
inductive Sealed (mark : Char) : List Char → Prop where
  | nil : Sealed mark []
  | escape (character : Char) {rest : List Char} (others : Sealed mark rest) :
      Sealed mark ('\\' :: character :: rest)
  | plain {character : Char} {rest : List Char} (unescaping : character ≠ '\\')
      (unmarked : character ≠ mark) (others : Sealed mark rest) : Sealed mark (character :: rest)

namespace Sealed

variable {mark : Char} {left right text : List Char}

theorem append (first : Sealed mark left) (second : Sealed mark right) :
    Sealed mark (left ++ right) := by
  induction first with
  | nil => exact second
  | escape character _ induction => exact .escape character induction
  | plain unescaping unmarked _ induction => exact .plain unescaping unmarked induction

theorem flatMap {write : Char → List Char} (each : ∀ character, Sealed mark (write character)) :
    Sealed mark (text.flatMap write) := by
  induction text with
  | nil => exact .nil
  | cons character text induction => exact (each character).append induction

theorem of_plain (plain : ∀ character ∈ text, character ≠ '\\' ∧ character ≠ mark) :
    Sealed mark text := by
  induction text with
  | nil => exact .nil
  | cons character text induction =>
      obtain ⟨⟨unescaping, unmarked⟩, others⟩ := List.forall_mem_cons.mp plain
      exact .plain unescaping unmarked (induction others)

end Sealed

theorem exists_digitChar_of_mem_toDigitsCore {base fuel number : Nat} (positive : 0 < base)
    {held : List Char}
    (digits : ∀ character ∈ held, ∃ digit < base, character = Nat.digitChar digit) :
    ∀ character ∈ Nat.toDigitsCore base fuel number held,
      ∃ digit < base, character = Nat.digitChar digit := by
  induction fuel generalizing number held with
  | zero => exact digits
  | succ fuel induction =>
      have longer : ∀ character ∈ Nat.digitChar (number % base) :: held,
          ∃ digit < base, character = Nat.digitChar digit :=
        List.forall_mem_cons.mpr ⟨⟨_, Nat.mod_lt number positive, rfl⟩, digits⟩
      rw [Nat.toDigitsCore]
      split
      · exact longer
      · exact induction longer

/-- What holds of the sixteen digits holds of all that stands in a code. -/
theorem forall_mem_hexDigits (test : Char → Prop)
    (each : ∀ digit : Fin 16, test (Nat.digitChar digit))
    (width code : Nat) : ∀ character ∈ hexDigits width code, test character := by
  rw [hexDigits, List.forall_mem_append]
  constructor
  · intro character member
    rw [List.eq_of_mem_replicate member]
    exact each 0
  · intro character member
    obtain ⟨digit, small, rfl⟩ :=
      exists_digitChar_of_mem_toDigitsCore (by omega) (List.forall_mem_nil _) character member
    exact each ⟨digit, small⟩

/-- The letters that stand for a character behind a backslash. -/
def letterEscapes : List (Char × Char) :=
  [('n', '\n'), ('r', '\r'), ('t', '\t')]

/-- The letters behind a backslash that a code follows, and how many digits it has. -/
def codeEscapes : List (Char × Nat) :=
  [('x', 2), ('u', 4), ('U', 8)]

/-- The ways in which a character is written in a text quoted with a mark. -/
inductive Writes (mark character : Char) : List Char → Prop where
  | plain (printable : isPrintable character = true) (unescaping : character ≠ '\\')
      (unmarked : character ≠ mark) : Writes mark character [character]
  | marked (among : character = mark ∨ character = '\\') : Writes mark character ['\\', character]
  | letter {letter : Char} (among : (letter, character) ∈ letterEscapes) :
      Writes mark character ['\\', letter]
  | code {letter : Char} {width : Nat} (among : (letter, width) ∈ codeEscapes)
      (fits : character.toNat < 16 ^ width) :
      Writes mark character ('\\' :: letter :: hexDigits width character.toNat)

theorem Writes.ne_nil {mark character : Char} {text : List Char}
    (written : Writes mark character text) :
    text ≠ [] := by
  cases written <;> simp

theorem toNat_lt (character : Char) : character.toNat < 0x110000 := by
  rcases character.valid with low | ⟨-, high⟩
  · exact Nat.lt_trans low (by omega)
  · exact high

theorem writes_escapeCode (mark character : Char) :
    Writes mark character (escapeCode character.toNat) := by
  have bound := toNat_lt character
  unfold escapeCode
  split
  · exact .code (show ('x', 2) ∈ codeEscapes by decide) (by omega)
  · split
    · exact .code (show ('u', 4) ∈ codeEscapes by decide) (by omega)
    · exact .code (show ('U', 8) ∈ codeEscapes by decide) (by omega)

theorem writes_quoteCharacter (mark character : Char) :
    Writes mark character (quoteCharacter mark character) := by
  unfold quoteCharacter
  split
  · next among =>
    rw [Bool.or_eq_true, decide_eq_true_eq, decide_eq_true_eq] at among
    exact .marked among
  · next other =>
    rw [Bool.or_eq_true, decide_eq_true_eq, decide_eq_true_eq, not_or] at other
    split
    · next feed => exact .letter (by simp [letterEscapes, feed])
    · split
      · next return_ => exact .letter (by simp [letterEscapes, return_])
      · split
        · next tab => exact .letter (by simp [letterEscapes, tab])
        · split
          · next printable => exact .plain printable other.2 other.1
          · exact writes_escapeCode mark character

theorem quoteMark_eq (text : List Char) : quoteMark text = '\'' ∨ quoteMark text = '"' := by
  unfold quoteMark
  split
  · exact .inr rfl
  · exact .inl rfl

section Marked

variable {mark character : Char} {text : List Char} (marks : mark = '\'' ∨ mark = '"')

include marks

theorem Writes.sealed (written : Writes mark character text) : Sealed mark text := by
  cases written with
  | plain _ unescaping unmarked => exact .plain unescaping unmarked .nil
  | marked _ => exact .escape _ .nil
  | letter _ => exact .escape _ .nil
  | code _ _ =>
      refine .escape _ (.of_plain (forall_mem_hexDigits _ ?_ _ _))
      rcases marks with rfl | rfl <;> decide

/-- No line ends where a character is written. -/
theorem Writes.unbroken (written : Writes mark character text) :
    ∀ stop ∈ text, stop ≠ '\n' ∧ stop ≠ '\r' := by
  have backslash : '\\' ≠ '\n' ∧ '\\' ≠ '\r' := by decide
  cases written with
  | plain printable _ _ =>
      rw [List.forall_mem_singleton]
      constructor
      · rintro rfl
        exact absurd printable (by decide)
      · rintro rfl
        exact absurd printable (by decide)
  | marked among =>
      rw [List.forall_mem_cons, List.forall_mem_singleton]
      refine ⟨backslash, ?_⟩
      rcases among with rfl | rfl
      · rcases marks with rfl | rfl <;> decide
      · exact backslash
  | letter among =>
      have inner : ∀ escape ∈ letterEscapes, escape.1 ≠ '\n' ∧ escape.1 ≠ '\r' := by decide
      rw [List.forall_mem_cons, List.forall_mem_singleton]
      exact ⟨backslash, inner _ among⟩
  | code among _ =>
      have inner : ∀ escape ∈ codeEscapes, escape.1 ≠ '\n' ∧ escape.1 ≠ '\r' := by decide
      rw [List.forall_mem_cons, List.forall_mem_cons]
      exact ⟨backslash, inner _ among, forall_mem_hexDigits _ (by decide) _ _⟩

end Marked

theorem flatMap_quoteCharacter_ne_nil (mark first : Char) (text : List Char) :
    (first :: text).flatMap (quoteCharacter mark) ≠ [] := by
  have written := writes_quoteCharacter mark first
  rw [List.flatMap_cons]
  exact List.append_ne_nil_of_left_ne_nil written.ne_nil _

/-- What stands between the marks of a quoted text is sealed. -/
theorem sealed_flatMap_quoteCharacter (text : List Char) :
    Sealed (quoteMark text) (text.flatMap (quoteCharacter (quoteMark text))) :=
  .flatMap fun character => (writes_quoteCharacter _ character).sealed (quoteMark_eq text)

/-- No line ends between the marks of a quoted text. -/
theorem unbroken_flatMap_quoteCharacter (text : List Char) :
    ∀ character ∈ text.flatMap (quoteCharacter (quoteMark text)),
      character ≠ '\n' ∧ character ≠ '\r' := by
  intro stop member
  obtain ⟨character, -, within⟩ := List.mem_flatMap.mp member
  exact (writes_quoteCharacter _ character).unbroken (quoteMark_eq text) stop within

/-- A quoted text stands on one line. -/
theorem unbroken_quote (text : List Char) :
    ∀ character ∈ quote text, character ≠ '\n' ∧ character ≠ '\r' := by
  have mark : quoteMark text ≠ '\n' ∧ quoteMark text ≠ '\r' := by
    rcases quoteMark_eq text with same | same <;> rw [same] <;> decide
  rw [quote, List.forall_mem_append, List.forall_mem_cons, List.forall_mem_singleton]
  exact ⟨⟨mark, unbroken_flatMap_quoteCharacter text⟩, mark⟩

end ApiCompiler.Text
