import ApiCompiler.Text.Lines
import Mathlib.Tactic.Common

/-!
# Pieces of a text

Cutting a text at a separator and joining the pieces again, and what stands behind the last
occurrence of a character.
-/

namespace ApiCompiler.Text

variable {separator : Char} {text : List Char}

theorem splitAt_cons_self (separator : Char) (rest : List Char) :
    splitAt separator (separator :: rest) = [] :: splitAt separator rest :=
  if_pos rfl

theorem splitAt_cons_of_ne {character : Char} (differs : character ≠ separator)
    {rest piece : List Char}
    {pieces : List (List Char)} (cut : splitAt separator rest = piece :: pieces) :
    splitAt separator (character :: rest) = (character :: piece) :: pieces := by
  rw [splitAt, if_neg differs, cut]

/-- A text has a first piece. -/
theorem exists_splitAt_eq_cons (separator : Char) (text : List Char) :
    ∃ piece pieces, splitAt separator text = piece :: pieces :=
  List.exists_cons_of_ne_nil (splitAt_ne_nil separator text)

/-- A text without separators in front belongs to the first piece. -/
theorem splitAt_append_of_not_mem {front : List Char} (absent : separator ∉ front)
    {piece : List Char}
    {pieces : List (List Char)} (cut : splitAt separator text = piece :: pieces) :
    splitAt separator (front ++ text) = (front ++ piece) :: pieces := by
  induction front with
  | nil => exact cut
  | cons character front induction =>
      rw [List.mem_cons, not_or] at absent
      exact splitAt_cons_of_ne (Ne.symm absent.1) (induction absent.2)

theorem splitAt_eq_singleton (absent : separator ∉ text) : splitAt separator text = [text] := by
  have cut := splitAt_append_of_not_mem absent (show splitAt separator [] = [[]] from rfl)
  rwa [List.append_nil] at cut

/-- A separator between two texts ends the pieces of the first. -/
theorem splitAt_append_cons (separator : Char) (front back : List Char) :
    splitAt separator (front ++ separator :: back) =
      splitAt separator front ++ splitAt separator back := by
  induction front with
  | nil => exact splitAt_cons_self separator back
  | cons character front induction =>
      by_cases same : character = separator
      · subst same
        rw [List.cons_append, splitAt_cons_self, splitAt_cons_self, induction, List.cons_append]
      · obtain ⟨piece, pieces, cut⟩ := exists_splitAt_eq_cons separator front
        rw [cut, List.cons_append] at induction
        rw [List.cons_append, splitAt_cons_of_ne same induction, splitAt_cons_of_ne same cut,
          List.cons_append]

/-- Cutting commutes with writing each character in another way, the separator as itself. -/
theorem splitAt_flatMap {write : Char → List Char} (kept : write separator = [separator])
    (absent : ∀ character, character ≠ separator → separator ∉ write character) (text : List Char) :
    splitAt separator (text.flatMap write) = (splitAt separator text).map (·.flatMap write) := by
  induction text with
  | nil => rfl
  | cons character rest induction =>
      by_cases same : character = separator
      · subst same
        rw [List.flatMap_cons, kept, List.singleton_append, splitAt_cons_self, splitAt_cons_self,
          induction, List.map_cons, List.flatMap_nil]
      · obtain ⟨piece, pieces, cut⟩ := exists_splitAt_eq_cons separator rest
        rw [cut, List.map_cons] at induction
        rw [List.flatMap_cons, splitAt_cons_of_ne same cut, List.map_cons, List.flatMap_cons]
        exact splitAt_append_of_not_mem (absent character same) induction

theorem separator_not_mem_of_mem_splitAt :
    ∀ piece ∈ splitAt separator text, separator ∉ piece := by
  induction text with
  | nil => simp [splitAt]
  | cons character rest induction =>
      by_cases same : character = separator
      · subst same
        rw [splitAt_cons_self]
        exact List.forall_mem_cons.mpr ⟨List.not_mem_nil, induction⟩
      · obtain ⟨piece, pieces, cut⟩ := exists_splitAt_eq_cons separator rest
        rw [cut, List.forall_mem_cons] at induction
        rw [splitAt_cons_of_ne same cut]
        refine List.forall_mem_cons.mpr ⟨?_, induction.2⟩
        rw [List.mem_cons, not_or]
        exact ⟨Ne.symm same, induction.1⟩

/-- What stands in a joined text stands in a piece or in the separator. -/
theorem mem_joinWith {between : List Char} {pieces : List (List Char)} {character : Char}
    (member : character ∈ joinWith between pieces) :
    (∃ piece ∈ pieces, character ∈ piece) ∨ character ∈ between := by
  fun_induction joinWith between pieces with
  | case1 => exact absurd member List.not_mem_nil
  | case2 piece => exact .inl ⟨piece, List.mem_singleton_self piece, member⟩
  | case3 piece pieces several induction =>
      rcases List.mem_append.mp member with front | back
      · rcases List.mem_append.mp front with first | separating
        · exact .inl ⟨piece, List.mem_cons_self, first⟩
        · exact .inr separating
      · exact (induction back).imp_left fun ⟨other, held, found⟩ =>
          ⟨other, List.mem_cons_of_mem _ held, found⟩

theorem joinWith_cons {between piece : List Char} {pieces : List (List Char)}
    (several : pieces ≠ []) :
    joinWith between (piece :: pieces) = piece ++ between ++ joinWith between pieces := by
  cases pieces with
  | nil => contradiction
  | cons second rest => rfl

theorem joinWith_cons_cons (character : Char) (between piece : List Char)
    (pieces : List (List Char)) :
    joinWith between ((character :: piece) :: pieces) =
      character :: joinWith between (piece :: pieces) := by
  cases pieces with
  | nil => rfl
  | cons second rest => rfl

/-- The pieces of a text joined again are the text. -/
theorem joinWith_splitAt (separator : Char) (text : List Char) :
    joinWith [separator] (splitAt separator text) = text := by
  induction text with
  | nil => rfl
  | cons character rest induction =>
      by_cases same : character = separator
      · subst same
        rw [splitAt_cons_self, joinWith_cons (splitAt_ne_nil character rest), induction]
        rfl
      · obtain ⟨piece, pieces, cut⟩ := exists_splitAt_eq_cons separator rest
        rw [splitAt_cons_of_ne same cut, joinWith_cons_cons, ← cut, induction]

/-- Pieces without separators come back from the joined text. -/
theorem splitAt_joinWith {pieces : List (List Char)} (some : pieces ≠ [])
    (absent : ∀ piece ∈ pieces, separator ∉ piece) :
    splitAt separator (joinWith [separator] pieces) = pieces := by
  induction pieces with
  | nil => contradiction
  | cons piece pieces induction =>
      obtain ⟨first, others⟩ := List.forall_mem_cons.mp absent
      by_cases several : pieces = []
      · subst several
        exact splitAt_eq_singleton first
      · rw [joinWith_cons several, List.append_assoc, List.singleton_append, splitAt_append_cons,
          splitAt_eq_singleton first, induction several others]
        rfl

/-- The pieces of a joined text are those of its parts, one after another. -/
theorem splitAt_joinWith_eq_flatMap (separator : Char) {parts : List (List Char)}
    (some : parts ≠ []) :
    splitAt separator (joinWith [separator] parts) = parts.flatMap (splitAt separator) := by
  induction parts with
  | nil => contradiction
  | cons part parts induction =>
      by_cases several : parts = []
      · subst several
        simp [joinWith]
      · rw [joinWith_cons several, List.append_assoc, List.singleton_append, splitAt_append_cons,
          induction several, List.flatMap_cons]

theorem one_le_length_splitAt (separator : Char) (text : List Char) :
    1 ≤ (splitAt separator text).length :=
  List.length_pos_iff.mpr (splitAt_ne_nil separator text)

/-- A text is its only piece exactly where it has no separator. -/
theorem length_splitAt_eq_one_iff :
    (splitAt separator text).length = 1 ↔ separator ∉ text := by
  constructor
  · intro single member
    obtain ⟨front, back, rfl⟩ := List.append_of_mem member
    have front_pos := one_le_length_splitAt separator front
    have back_pos := one_le_length_splitAt separator back
    rw [splitAt_append_cons, List.length_append] at single
    omega
  · intro absent
    rw [splitAt_eq_singleton absent]
    rfl

/-- Joining parts gives no more pieces than there are parts exactly where none of them has a
separator. -/
theorem length_flatMap_splitAt_eq_iff {parts : List (List Char)} :
    (parts.flatMap (splitAt separator)).length = parts.length ↔
      ∀ part ∈ parts, separator ∉ part := by
  have atLeast (parts : List (List Char)) :
      parts.length ≤ (parts.flatMap (splitAt separator)).length := by
    induction parts with
    | nil => exact Nat.le_refl 0
    | cons part parts induction =>
        have first := one_le_length_splitAt separator part
        rw [List.flatMap_cons, List.length_append, List.length_cons]
        omega
  induction parts with
  | nil => simp
  | cons part parts induction =>
      have first := one_le_length_splitAt separator part
      have others := atLeast parts
      rw [List.forall_mem_cons, ← length_splitAt_eq_one_iff]
      refine Iff.trans ?_ (and_congr_right fun _ => induction)
      rw [List.flatMap_cons, List.length_append, List.length_cons]
      omega

theorem toList_intercalate (separator : String) (texts : List String) :
    (String.intercalate separator texts).toList =
      joinWith separator.toList (texts.map String.toList) := by
  induction texts with
  | nil => rfl
  | cons text texts induction =>
      cases texts with
      | nil => simp [joinWith]
      | cons next texts =>
          rw [String.intercalate_cons_cons, String.toList_append, String.toList_append, induction]
          rfl

theorem not_mem_intercalate {mark : Char} {separator : String} (apart : mark ∉ separator.toList)
    {texts : List String} (absent : ∀ text ∈ texts, mark ∉ text.toList) :
    mark ∉ (String.intercalate separator texts).toList := by
  rw [toList_intercalate]
  intro member
  rcases mem_joinWith member with ⟨piece, held, found⟩ | found
  · obtain ⟨text, own, rfl⟩ := List.mem_map.mp held
    exact absent text own found
  · exact apart found

section Last

variable {mark : Char}

/-- A character stands in a text with nothing like it behind, or not at all. -/
theorem not_mem_or_exists_last (mark : Char) (text : List Char) :
    mark ∉ text ∨ ∃ front behind, text = front ++ mark :: behind ∧ mark ∉ behind := by
  by_cases member : mark ∈ text.reverse
  · obtain ⟨behind, front, cut, absent⟩ := List.eq_append_cons_of_mem member
    refine .inr ⟨front.reverse, behind.reverse, ?_, by rwa [List.mem_reverse]⟩
    rw [← List.reverse_reverse text, cut]
    simp
  · exact .inl (by rwa [List.mem_reverse] at member)

theorem bne_of_not_mem (absent : mark ∉ text) : ∀ character ∈ text, (character != mark) = true := by
  intro character member
  rw [bne_iff_ne]
  rintro rfl
  exact absent member

/-- Characters other than the mark pass a search for the mark. -/
theorem takeWhile_append_of_not_mem {front : List Char} (absent : mark ∉ front) (back : List Char) :
    (front ++ back).takeWhile (· != mark) = front ++ back.takeWhile (· != mark) :=
  List.takeWhile_append_of_pos (bne_of_not_mem absent)

theorem takeWhile_eq_self (absent : mark ∉ text) : text.takeWhile (· != mark) = text := by
  have whole := takeWhile_append_of_not_mem absent []
  rwa [List.append_nil, List.takeWhile_nil, List.append_nil] at whole

theorem takeWhile_reverse_eq_self (absent : mark ∉ text) :
    (text.reverse.takeWhile (· != mark)).reverse = text := by
  rw [takeWhile_eq_self (by rwa [List.mem_reverse]), List.reverse_reverse]

/-- The end of a text that the last occurrence of a character leaves. -/
theorem takeWhile_reverse_append_cons {behind : List Char} (absent : mark ∉ behind)
    (front : List Char) :
    ((front ++ mark :: behind).reverse.takeWhile (· != mark)).reverse = behind := by
  rw [List.reverse_append, List.reverse_cons, List.append_assoc,
    takeWhile_append_of_not_mem (by rwa [List.mem_reverse]), List.singleton_append,
    List.takeWhile_cons_of_neg (by simp), List.append_nil, List.reverse_reverse]

/-- The front of a text with the last occurrence of a character at its end. -/
theorem dropWhile_reverse_append_cons {behind : List Char} (absent : mark ∉ behind)
    (front : List Char) :
    ((front ++ mark :: behind).reverse.dropWhile (· != mark)).reverse = front ++ [mark] := by
  have others := bne_of_not_mem (show mark ∉ behind.reverse by rwa [List.mem_reverse])
  rw [List.reverse_append, List.reverse_cons, List.append_assoc,
    List.dropWhile_append_of_pos others,
    List.singleton_append, List.dropWhile_cons_of_neg (by simp), List.reverse_cons,
    List.reverse_reverse]

/-- The front of a text whose last occurrence of a character is known. -/
theorem dropLast_take_append_cons (front : List Char) (mark : Char) (behind : List Char) :
    ((front ++ mark :: behind).take ((front ++ mark :: behind).length - behind.length)).dropLast =
      front := by
  have count : (front ++ mark :: behind).length - behind.length = (front ++ [mark]).length := by
    simp only [List.length_append, List.length_cons, List.length_nil]
    omega
  rw [count, List.append_cons front mark behind, List.take_left, List.dropLast_concat]

end Last

end ApiCompiler.Text
