import ApiCompiler.Yaml.Cursor
import Mathlib.Data.Bool.AllAny
import Mathlib.Data.List.Induction
import Mathlib.Data.List.TakeWhile

/-!
# Passing text

What a cursor passes: the text between two places, its length and, without breaks, its line.
-/

namespace ApiCompiler.Yaml.Cursor

variable {cursor before middle after : Cursor} {text rest : List Char} {test : Char → Bool}

/-- One place is behind a text that the other place is in front of. -/
structure Passes (text : List Char) (before after : Cursor) : Prop where
  rest : before.rest = text ++ after.rest
  index : after.index = before.index + text.length
  line : (∀ character ∈ text, isBreak character = false) → after.line = before.line

namespace Passes

theorem refl (cursor : Cursor) : Passes [] cursor cursor :=
  ⟨rfl, rfl, fun _ => rfl⟩

theorem trans {further : List Char} (first : Passes text before middle)
    (second : Passes further middle after) : Passes (text ++ further) before after where
  rest := by rw [first.rest, second.rest, List.append_assoc]
  index := by rw [second.index, first.index, List.length_append, Nat.add_assoc]
  line unbroken := by
    obtain ⟨firstPart, secondPart⟩ := List.forall_mem_append.mp unbroken
    rw [second.line secondPart, first.line firstPart]

/-- What is left behind a text is known from what stood in front of it. -/
theorem rest_eq (passes : Passes text before after) (starts : before.rest = text ++ rest) :
    after.rest = rest :=
  List.append_cancel_left (passes.rest.symm.trans starts)

end Passes

theorem passes_step {character : Char} (starts : cursor.rest = character :: rest) :
    Passes [character] cursor cursor.step := by
  unfold step
  rw [starts]
  dsimp only
  split
  · rename_i breaks
    refine ⟨starts, rfl, fun unbroken => ?_⟩
    rw [Bool.and_eq_true, unbroken character List.mem_cons_self] at breaks
    exact absurd breaks.1 (by decide)
  · exact ⟨starts, rfl, fun _ => rfl⟩

theorem passes_advance (starts : cursor.rest = text ++ rest) :
    Passes text cursor (cursor.advance text.length) := by
  induction text generalizing cursor with
  | nil => exact .refl cursor
  | cons character text induction =>
      rw [List.cons_append] at starts
      have first := passes_step starts
      exact first.trans (induction (first.rest_eq starts))

theorem advance_add (first second : Nat) (cursor : Cursor) :
    cursor.advance (first + second) = (cursor.advance first).advance second := by
  induction first generalizing cursor with
  | zero => rw [Nat.zero_add, advance]
  | succ first induction => rw [Nat.succ_add, advance, advance, induction]

theorem advance_append (text further : List Char) (cursor : Cursor) :
    cursor.advance (text ++ further).length =
      (cursor.advance text.length).advance further.length := by
  rw [List.length_append, advance_add]

theorem advance_rest (starts : cursor.rest = text ++ rest) :
    (cursor.advance text.length).rest = rest :=
  (passes_advance starts).rest_eq starts

/-- A text that no test stops, in front of one that it stops. -/
theorem span_eq (starts : cursor.rest = text ++ rest)
    (each : ∀ character ∈ text, test character = true)
    (ends : ∀ character, rest.head? = some character → test character = false) :
    cursor.span test = (text, cursor.advance text.length) := by
  unfold span
  rw [starts]
  induction text generalizing cursor with
  | nil =>
      cases rest with
      | nil => rfl
      | cons character rest =>
          change spanFrom test (character :: rest) cursor = _
          rw [spanFrom, if_neg (by simp [ends character rfl])]
          rfl
  | cons character text induction =>
      obtain ⟨passed, others⟩ := List.forall_mem_cons.mp each
      rw [List.cons_append] at starts
      have first := passes_step starts
      change spanFrom test (character :: (text ++ rest)) cursor = _
      rw [spanFrom, if_pos passed, induction (first.rest_eq starts) others]
      rfl

theorem skip_eq (starts : cursor.rest = text ++ rest)
    (each : ∀ character ∈ text, test character = true)
    (ends : ∀ character, rest.head? = some character → test character = false) :
    cursor.skip test = cursor.advance text.length := by
  rw [skip, span_eq starts each ends]

theorem peek_eq (cursor : Cursor) : cursor.peek = cursor.rest.head? :=
  rfl

/-- Characters of blanks: spaces, line feeds and carriage returns. -/
def isBlank (character : Char) : Bool :=
  character == ' ' || character == '\n' || character == '\r'

/-- A break of a line in front of a text: a carriage return and a line feed behind it are one. -/
inductive LineBreak : List Char → List Char → Prop where
  | feed (rest : List Char) : LineBreak ['\n'] rest
  | both (rest : List Char) : LineBreak ['\r', '\n'] rest
  | bare {rest : List Char} (alone : rest.head? ≠ some '\n') : LineBreak ['\r'] rest

/-- Blanks in front of a text, line by line. -/
inductive Blanks (rest : List Char) : List Char → Prop where
  | line {spaces : List Char} (each : ∀ character ∈ spaces, character = ' ') : Blanks rest spaces
  | lines {spaces lineBreak blank : List Char} (each : ∀ character ∈ spaces, character = ' ')
      (breaks : LineBreak lineBreak (blank ++ rest)) (others : Blanks rest blank) :
      Blanks rest (spaces ++ (lineBreak ++ blank))

theorem takeBreak_eq (starts : cursor.rest = text ++ rest) (breaks : LineBreak text rest) :
    cursor.takeBreak = (['\n'], cursor.advance text.length) := by
  unfold takeBreak
  rw [starts]
  cases breaks with
  | feed => rfl
  | both => rfl
  | bare alone =>
      cases rest with
      | nil => rfl
      | cons first others =>
          have other : first ≠ '\n' := fun eq => alone (congrArg some eq)
          simp [other, isBreak, advance]

theorem LineBreak.isBreak_of_head? (breaks : LineBreak text rest) {character : Char}
    (found : (text ++ rest).head? = some character) : isBreak character = true := by
  cases breaks with
  | feed => obtain rfl := Option.some.inj found; decide
  | both => obtain rfl := Option.some.inj found; decide
  | bare => obtain rfl := Option.some.inj found; decide

theorem LineBreak.peek (starts : cursor.rest = text ++ rest) (breaks : LineBreak text rest) :
    cursor.peek.any isBreak = true := by
  rw [peek_eq, starts]
  cases breaks <;> rfl

theorem LineBreak.length_pos (breaks : LineBreak text rest) : 0 < text.length := by
  cases breaks <;> decide

theorem Blanks.space {blank : List Char} (blanks : Blanks rest blank) :
    Blanks rest (' ' :: blank) := by
  have spaced : ∀ {spaces : List Char}, (∀ character ∈ spaces, character = ' ') →
      ∀ character ∈ ' ' :: spaces, character = ' ' :=
        fun each => List.forall_mem_cons.mpr ⟨rfl, each⟩
  cases blanks with
  | line each => exact .line (spaced each)
  | lines each breaks others => exact .lines (spaced each) breaks others

theorem Blanks.lineBreak {lineBreak blank : List Char}
    (breaks : LineBreak lineBreak (blank ++ rest))
    (others : Blanks rest blank) : Blanks rest (lineBreak ++ blank) :=
  .lines (List.forall_mem_nil _) breaks others

/-- Blanks that no line feed follows are lines of spaces. -/
theorem Blanks.cons {blank : List Char} {character : Char} (blanks : Blanks rest blank)
    (first : isBlank character = true)
    (apart : character = '\r' → (blank ++ rest).head? ≠ some '\n') :
    Blanks rest (character :: blank) := by
  simp only [isBlank, Bool.or_eq_true, beq_iff_eq] at first
  obtain (rfl | rfl) | rfl := first
  · exact blanks.space
  · exact .lineBreak (.feed _) blanks
  · exact .lineBreak (.bare (apart rfl)) blanks

theorem Blanks.of_forall (ends : rest.head? ≠ some '\n') {blank : List Char}
    (each : ∀ character ∈ blank, isBlank character = true) : Blanks rest blank := by
  induction blank using List.twoStepInduction with
  | nil => exact .line (List.forall_mem_nil _)
  | singleton character =>
      exact .cons (.line (List.forall_mem_nil _)) (each _ List.mem_cons_self) fun _ => ends
  | cons_cons character next blank behind both =>
      obtain ⟨first, others⟩ := List.forall_mem_cons.mp each
      by_cases pair : character = '\r' ∧ next = '\n'
      · obtain ⟨rfl, rfl⟩ := pair
        exact .lineBreak (.both _) (behind (List.forall_mem_cons.mp others).2)
      · refine .cons (both next others) first fun return_ feed => pair ⟨return_, ?_⟩
        exact Option.some.inj feed

theorem LineBreak.isBlank_of_mem (breaks : LineBreak text rest) :
    ∀ character ∈ text, isBlank character = true := by
  cases breaks <;> exact List.all_iff_forall_prop.mp (by decide)

theorem Blanks.isBlank_of_mem {blank : List Char} (blanks : Blanks rest blank) :
    ∀ character ∈ blank, isBlank character = true := by
  induction blanks with
  | line each =>
      intro character member
      rw [each character member]
      decide
  | lines each breaks _ induction =>
      refine List.forall_mem_append.mpr ⟨fun character member => ?_,
        List.forall_mem_append.mpr ⟨breaks.isBlank_of_mem, induction⟩⟩
      rw [each character member]
      decide

/-- Spaces in front of something else. -/
theorem skipSpaces_eq {spaces : List Char} (each : ∀ character ∈ spaces, character = ' ')
    (starts : cursor.rest = spaces ++ rest) (ends : rest.head? ≠ some ' ') :
    cursor.span (· == ' ') = (spaces, cursor.advance spaces.length) ∧
      cursor.skipSpaces = cursor.advance spaces.length := by
  have spans : cursor.span (· == ' ') = (spaces, cursor.advance spaces.length) := by
    refine span_eq starts (fun character member => by rw [each character member]; rfl) ?_
    intro character found
    rw [beq_eq_false_iff_ne]
    rintro rfl
    exact ends found
  exact ⟨spans, by rw [skipSpaces, skip, spans]⟩

theorem LineBreak.head?_ne (breaks : LineBreak text rest) : (text ++ rest).head? ≠ some ' ' := by
  intro found
  exact absurd (breaks.isBreak_of_head? found) (by decide)

end ApiCompiler.Yaml.Cursor
