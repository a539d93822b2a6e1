import ApiCompiler.Proofs.Text.Returns
import ApiCompiler.Proofs.Text.Spelling

/-!
# Prose inside of documentation

Prose is free text with a backslash in front of each double mark and backslash. It is sealed, also
where its lines are pushed right, so documentation does not end inside of it; and the escapes
undone, it is the text without the blanks at its ends.
-/

namespace ApiCompiler.Module

open Text

theorem escapeProse_of_marked {character : Char} (marked : character = '\\' ∨ character = '"') :
    escapeProse character = ['\\', character] := by
  rcases marked with rfl | rfl <;> rfl

theorem escapeProse_of_unmarked {character : Char}
    (unmarked : ¬(character = '\\' ∨ character = '"')) :
    escapeProse character = [character] := by
  rw [escapeProse, if_neg (by simpa using unmarked)]

theorem sealed_escapeProse (character : Char) : Sealed '"' (escapeProse character) := by
  by_cases marked : character = '\\' ∨ character = '"'
  · rw [escapeProse_of_marked marked]
    exact .escape character .nil
  · rw [escapeProse_of_unmarked marked]
    rw [not_or] at marked
    exact .plain marked.1 marked.2 .nil

/-- A text with the escapes of its backslashes and double marks undone. -/
def undone : List Char → List Char
  | '\\' :: '\\' :: rest => '\\' :: undone rest
  | '\\' :: '"' :: rest => '"' :: undone rest
  | character :: rest => character :: undone rest
  | [] => []

theorem undone_cons_of_ne {character : Char} (unescaping : character ≠ '\\') (rest : List Char) :
    undone (character :: rest) = character :: undone rest := by
  rw [undone]
  · rintro _ rfl
    contradiction
  · rintro _ rfl
    contradiction

theorem undone_flatMap_escapeProse (text : List Char) :
    undone (text.flatMap escapeProse) = text := by
  induction text with
  | nil => rfl
  | cons character text induction =>
      rw [List.flatMap_cons]
      by_cases marked : character = '\\' ∨ character = '"'
      · rw [escapeProse_of_marked marked]
        rcases marked with rfl | rfl
        · exact congrArg ('\\' :: ·) induction
        · exact congrArg ('"' :: ·) induction
      · rw [escapeProse_of_unmarked marked]
        rw [not_or] at marked
        rw [List.singleton_append, undone_cons_of_ne marked.1, induction]

theorem gatherLines_cons_of_inner {line rest : List Char} {character : Char}
    (inner : endsLine character = false) :
    gatherLines line (character :: rest) = gatherLines (character :: line) rest := by
  rw [gatherLines]
  · rw [if_neg (by simp [inner])]
  · rintro _ rfl -
    contradiction

theorem gatherLines_nil_of_ne_nil {line : List Char} (filled : line ≠ []) :
    gatherLines line [] = [line.reverse] := by
  cases line with
  | nil => contradiction
  | cons character line => rfl

/-- A text that starts with a line feed once it is escaped does so before. -/
theorem eq_lineFeed_of_flatMap_escapeProse {text rest : List Char}
    (same : text.flatMap escapeProse = '\n' :: rest) : ∃ others, text = '\n' :: others := by
  cases text with
  | nil => contradiction
  | cons character text =>
      refine ⟨text, ?_⟩
      by_cases marked : character = '\\' ∨ character = '"'
      · rw [List.flatMap_cons, escapeProse_of_marked marked] at same
        exact absurd (List.cons.inj same).1 (by decide)
      · rw [List.flatMap_cons, escapeProse_of_unmarked marked] at same
        rw [(List.cons.inj same).1]

/-- Escaping neither makes nor hides a line end. -/
theorem gatherLines_flatMap_escapeProse (line text : List Char) :
    gatherLines (line.reverse.flatMap escapeProse).reverse (text.flatMap escapeProse) =
      (gatherLines line text).map (·.flatMap escapeProse) := by
  have pieces (character : Char) : escapeProse character ≠ [] := by
    unfold escapeProse
    split <;> simp
  fun_induction gatherLines line text with
  | case1 => rfl
  | case2 line filled =>
      have nonempty : (line.reverse.flatMap escapeProse).reverse ≠ [] := by
        simpa [pieces] using List.exists_mem_of_ne_nil line filled
      rw [List.flatMap_nil, gatherLines_nil_of_ne_nil nonempty, List.reverse_reverse]
      rfl
  | case3 line rest induction =>
      change gatherLines _ ('\r' :: '\n' :: rest.flatMap escapeProse) = _
      rw [gatherLines, List.reverse_reverse, List.map_cons]
      exact congrArg _ induction
  | case4 line character rest alone ends induction =>
      have unmarked : ¬(character = '\\' ∨ character = '"') := by
        rintro (rfl | rfl) <;> exact absurd ends (by decide +kernel)
      rw [List.flatMap_cons, escapeProse_of_unmarked unmarked, List.singleton_append, gatherLines,
        if_pos ends, List.reverse_reverse, List.map_cons]
      · exact congrArg _ induction
      · intro _ return_ feed
        obtain ⟨others, rfl⟩ := eq_lineFeed_of_flatMap_escapeProse feed
        exact alone others return_ rfl
  | case5 line character rest _ inner induction =>
      rw [Bool.not_eq_true] at inner
      rw [← induction, List.reverse_cons, List.flatMap_append, List.reverse_append,
        List.flatMap_cons, List.flatMap_singleton]
      by_cases marked : character = '\\' ∨ character = '"'
      · rw [escapeProse_of_marked marked]
        change gatherLines _ ('\\' :: character :: rest.flatMap escapeProse) = _
        rw [gatherLines_cons_of_inner (by decide), gatherLines_cons_of_inner inner]
        rfl
      · rw [escapeProse_of_unmarked marked]
        exact gatherLines_cons_of_inner inner

theorem sealed_joinWith {mark : Char} {between : List Char} (separating : Sealed mark between)
    {pieces : List (List Char)} (each : ∀ piece ∈ pieces, Sealed mark piece) :
    Sealed mark (joinWith between pieces) := by
  fun_induction joinWith between pieces with
  | case1 => exact .nil
  | case2 piece => exact each piece List.mem_cons_self
  | case3 piece pieces _ induction =>
      obtain ⟨first, others⟩ := List.forall_mem_cons.mp each
      exact (first.append separating).append (induction others)

/-- Escapes stay together where lines are cut and pushed right: no line end is escaped, so every
line is itself the escaped form of a line. -/
theorem sealed_indentAfterFirst (width : Nat) (text : List Char) :
    Sealed '"' (indentAfterFirst width (text.flatMap escapeProse)) := by
  have cut : lines (text.flatMap escapeProse ++ ['\n']) =
      (lines (text ++ ['\n'])).map (·.flatMap escapeProse) := by
    have whole := gatherLines_flatMap_escapeProse [] (text ++ ['\n'])
    rw [List.flatMap_append] at whole
    exact whole
  have each : ∀ line ∈ lines (text.flatMap escapeProse ++ ['\n']), Sealed '"' line := by
    rw [cut, List.forall_mem_map]
    exact fun line _ => .flatMap sealed_escapeProse
  have indentation : Sealed '"' (List.replicate width ' ') := by
    apply Sealed.of_plain
    intro character blank
    rw [List.eq_of_mem_replicate blank]
    decide
  unfold indentAfterFirst
  cases found : lines (text.flatMap escapeProse ++ ['\n']) with
  | nil => exact .nil
  | cons first rest =>
      rw [found, List.forall_mem_cons] at each
      apply sealed_joinWith (.of_plain (List.forall_mem_singleton.mpr (by decide)))
      refine List.forall_mem_cons.mpr ⟨each.1, List.forall_mem_map.mpr fun line member => ?_⟩
      split
      · exact each.2 line member
      · exact indentation.append (each.2 line member)

theorem sealed_proseOf (text : String) : Sealed '"' (proseOf text).toList := by
  rw [proseOf, String.toList_ofList]
  exact .flatMap sealed_escapeProse

theorem sealed_proseAt (width : Nat) (text : String) : Sealed '"' (proseAt width text).toList := by
  rw [proseAt, String.toList_ofList]
  exact sealed_indentAfterFirst width _

/-- A text is what another one leaves without the blanks at its ends. -/
structure IsTrimmed (whole text : List Char) : Prop where
  around : ∃ before after, whole = before ++ text ++ after ∧
    (∀ character ∈ before, isBlank character = true) ∧ ∀ character ∈ after, isBlank character = true
  first : ∀ character ∈ text.head?, isBlank character = false
  last : ∀ character ∈ text.getLast?, isBlank character = false

theorem isTrimmed_trim (text : List Char) : IsTrimmed text (trim text) where
  around := exists_trimBy isBlank text
  first _ := head?_trimBy
  last _ := getLast?_trimBy

/-- Prose is sealed, wherever its lines begin, and holds the text that it was made of without the
blanks at its ends: the escapes undone, nothing else was changed. -/
theorem sealed_prose_and_undone (text : String) :
    Sealed '"' (proseOf text).toList ∧ IsTrimmed text.toList (undone (proseOf text).toList) ∧
      ∀ width, Sealed '"' (proseAt width text).toList := by
  refine ⟨sealed_proseOf text, ?_, fun width => sealed_proseAt width text⟩
  rw [proseOf, String.toList_ofList, prose, undone_flatMap_escapeProse]
  exact isTrimmed_trim text.toList

end ApiCompiler.Module
