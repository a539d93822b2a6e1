import ApiCompiler.Naming
import ApiCompiler.Proofs.Text.Lowercase
import Mathlib.Data.List.Chain
import Mathlib.Data.List.DropRight

/-!
# Names

The names that generated code is given are made of letters, digits and underscores alone.

The names of arguments are those that naming leaves as they are: a core of words of small letters
and digits with single underscores between them, an underscore in front of a digit and one behind a
keyword. Each step of naming keeps what the steps before it made of the name, and none finds
anything to change in a normal one.
-/

namespace ApiCompiler.Naming

open Text (isDigit IsUncapped lowercase)

theorem isNameCharacter_of_mem_replaceOthers (name : List Char) :
    ∀ character ∈ replaceOthers name, isNameCharacter character = true := by
  intro character member
  obtain ⟨source, -, rfl⟩ := List.mem_map.mp member
  split
  · assumption
  · decide

theorem collapse_subset (name : List Char) : collapse name ⊆ name := by
  fun_induction collapse name with
  | case1 rest induction => exact fun _ member => List.mem_cons_of_mem _ (induction member)
  | case2 character rest _ induction => exact List.cons_subset_cons character induction
  | case3 => exact List.Subset.refl []

theorem trimUnderscores_subset (name : List Char) : trimUnderscores name ⊆ name := by
  intro character member
  rw [trimUnderscores, List.mem_reverse] at member
  have front := (List.dropWhile_sublist _).subset member
  rw [List.mem_reverse] at front
  exact (List.dropWhile_sublist _).subset front

theorem isNameCharacter_of_mem_wordsJoined (name : List Char) :
    ∀ character ∈ wordsJoined name, isNameCharacter character = true :=
  fun character member => isNameCharacter_of_mem_replaceOthers _ character
    (collapse_subset _ (trimUnderscores_subset _ member))

theorem isNameCharacter_of_mem_nameOrDefault {name : List Char}
    (named : ∀ character ∈ name, isNameCharacter character = true) :
    ∀ character ∈ nameOrDefault name, isNameCharacter character = true := by
  unfold nameOrDefault
  split
  · exact List.all_eq_true.mp (by decide)
  · exact named

theorem isNameCharacter_of_mem_guardDigit {name : List Char}
    (named : ∀ character ∈ name, isNameCharacter character = true) :
    ∀ character ∈ guardDigit name, isNameCharacter character = true := by
  unfold guardDigit
  split
  · exact named
  · split
    · exact List.forall_mem_cons.mpr ⟨by decide, named⟩
    · exact named

theorem isNameCharacter_of_mem_argumentName (name : String) :
    ∀ character ∈ (argumentName name).toList, isNameCharacter character = true := by
  have guarded := isNameCharacter_of_mem_guardDigit (isNameCharacter_of_mem_nameOrDefault
    (isNameCharacter_of_mem_wordsJoined name.toList))
  rw [argumentName, String.toList_ofList, guardKeyword]
  split
  · exact List.forall_mem_append.mpr ⟨guarded, List.all_eq_true.mp (by decide)⟩
  · exact guarded

theorem isNameCharacter_of_mem_functionName (operationId : String) :
    ∀ character ∈ (functionName operationId).toList, isNameCharacter character = true := by
  have named := isNameCharacter_of_mem_argumentName operationId
  unfold functionName
  dsimp only
  split
  · rw [String.toList_append]
    exact List.forall_mem_append.mpr ⟨named, List.all_eq_true.mp (by decide)⟩
  · exact named

/-- Small letters and digits. -/
def isSmall (character : Char) : Bool :=
  isLower character || isDigit character

/-- Words of small letters and digits, with single underscores between them. -/
inductive IsCore : List Char → Prop where
  | single {character : Char} (small : isSmall character = true) : IsCore [character]
  | cons {character : Char} {rest : List Char} (small : isSmall character = true)
    (core : IsCore rest) :
      IsCore (character :: rest)
  | underscore {character : Char} {rest : List Char} (small : isSmall character = true)
      (core : IsCore rest) : IsCore (character :: '_' :: rest)

/-- An underscore where a core starts with a digit. -/
def digitMark (core : List Char) : List Char :=
  if core.head?.any isDigit then ['_'] else []

/-- An underscore where a core is a keyword. -/
def keywordMark (core : List Char) : List Char :=
  if String.ofList core ∈ keywords then ['_'] else []

/-- A core with its underscores. -/
def marked (core : List Char) : List Char :=
  digitMark core ++ core ++ keywordMark core

/-- A core with an underscore in front of a digit, and one behind a keyword. -/
def IsNormal (name : String) : Prop :=
  ∃ core, IsCore core ∧ name.toList = marked core

/-- Letters, digits and underscores of ASCII, with no digit in front. -/
def IsIdentifier (name : List Char) : Prop :=
  (∀ character ∈ name, isNameCharacter character = true) ∧ ∃ first, name.head? = some first ∧
    isDigit first = false

variable {character : Char} {name core : List Char}

/-- A character of the seven bits in lower case, or an underscore. -/
def IsPlain (character : Char) : Prop :=
  isSmall character = true ∨ character = '_'

theorem toNat_of_isSmall (small : isSmall character = true) :
    0x30 ≤ character.toNat ∧ character.toNat ≤ 0x39 ∨
      0x61 ≤ character.toNat ∧ character.toNat ≤ 0x7A := by
  simp only [isSmall, isLower, isDigit, Bool.or_eq_true, Bool.and_eq_true,
    decide_eq_true_eq] at small
  rcases small with ⟨least, most⟩ | ⟨least, most⟩
  · exact .inr ⟨UInt32.le_iff_toNat_le.mp least, UInt32.le_iff_toNat_le.mp most⟩
  · exact .inl ⟨UInt32.le_iff_toNat_le.mp least, UInt32.le_iff_toNat_le.mp most⟩

theorem isUpper_iff : isUpper character = true ↔ ¬IsUncapped character := by
  rw [isUpper, Bool.and_eq_true, decide_eq_true_eq, decide_eq_true_eq, IsUncapped,
    not_or, Nat.not_lt, Nat.not_lt]
  exact and_congr UInt32.le_iff_toNat_le UInt32.le_iff_toNat_le

theorem ne_underscore_of_isSmall (small : isSmall character = true) : character ≠ '_' := by
  rintro rfl
  contradiction

theorem IsPlain.isUncapped (plain : IsPlain character) : IsUncapped character := by
  rcases plain with small | rfl
  · have bounds := toNat_of_isSmall small
    rw [IsUncapped]
    omega
  · exact .inr (by decide)

theorem IsPlain.isAscii (plain : IsPlain character) : character.toNat < 0x80 := by
  rcases plain with small | rfl
  · have bounds := toNat_of_isSmall small
    omega
  · decide

theorem IsPlain.isUpper_eq_false (plain : IsPlain character) : isUpper character = false := by
  rw [← Bool.not_eq_true, isUpper_iff, not_not]
  exact plain.isUncapped

theorem IsPlain.isNameCharacter (plain : IsPlain character) : isNameCharacter character = true := by
  rcases plain with small | rfl
  · rw [Naming.isNameCharacter, Bool.or_assoc (isUpper character), ← isSmall, small, Bool.or_true,
      Bool.true_or]
  · decide

theorem isPlain_of_isNameCharacter (named : isNameCharacter character = true)
    (uncapped : IsUncapped character) : IsPlain character := by
  have lower : isUpper character = false := by
    rw [← Bool.not_eq_true, isUpper_iff, not_not]
    exact uncapped
  simpa [Naming.isNameCharacter, lower, isSmall, IsPlain] using named

/-- Of two neighbours, one is no underscore. -/
def IsApart (name : List Char) : Prop :=
  name.IsChain fun left right => left ≠ '_' ∨ right ≠ '_'

theorem not_infix_of_isApart (apart : IsApart name) : ¬['_', '_'] <:+: name := by
  intro within
  have pair := List.IsChain.infix apart within
  simp at pair

namespace IsCore

theorem isPlain (core : IsCore name) : ∀ character ∈ name, IsPlain character := by
  induction core with
  | single small => exact List.forall_mem_singleton.mpr (.inl small)
  | cons small _ induction => exact List.forall_mem_cons.mpr ⟨.inl small, induction⟩
  | underscore small _ induction =>
      exact List.forall_mem_cons.mpr ⟨.inl small, List.forall_mem_cons.mpr ⟨.inr rfl, induction⟩⟩

theorem exists_head (core : IsCore name) : ∃ first,
    name.head? = some first ∧ isSmall first = true := by
  cases core with
  | single small => exact ⟨_, rfl, small⟩
  | cons small => exact ⟨_, rfl, small⟩
  | underscore small => exact ⟨_, rfl, small⟩

theorem exists_last (core : IsCore name) : ∃ last,
    name.getLast? = some last ∧ isSmall last = true := by
  induction core with
  | single small => exact ⟨_, rfl, small⟩
  | cons _ _ induction =>
      obtain ⟨last, ends, small⟩ := induction
      exact ⟨last, by rw [List.getLast?_cons, ends]; rfl, small⟩
  | underscore _ _ induction =>
      obtain ⟨last, ends, small⟩ := induction
      exact ⟨last, by rw [List.getLast?_cons, List.getLast?_cons, ends]; rfl, small⟩

theorem isApart (core : IsCore name) : IsApart name := by
  unfold IsApart
  induction core with
  | single => exact List.isChain_singleton _
  | cons small _ induction =>
      exact List.isChain_cons.mpr ⟨fun _ _ => .inl (ne_underscore_of_isSmall small), induction⟩
  | underscore small core induction =>
      obtain ⟨first, starts, firstSmall⟩ := core.exists_head
      refine List.isChain_cons_cons.mpr ⟨.inl (ne_underscore_of_isSmall small),
        List.isChain_cons.mpr ⟨fun next held => .inr ?_, induction⟩⟩
      rw [Option.mem_def, starts, Option.some.injEq] at held
      exact held ▸ ne_underscore_of_isSmall firstSmall

end IsCore

/-- What starts and ends with no underscore, and has no two of them together, is a core. -/
theorem isCore_of_isApart : ∀ {name : List Char}, (∀ character ∈ name, IsPlain character) →
    IsApart name → name ≠ [] → name.head? ≠ some '_' → name.getLast? ≠ some '_' → IsCore name
  | [character], plain, _, _, front, _ =>
    .single ((plain character List.mem_cons_self).resolve_right fun same =>
      front (congrArg some same))
  | character :: next :: rest, plain, apart, _, front, back => by
    obtain ⟨own, plain⟩ := List.forall_mem_cons.mp plain
    have small := own.resolve_right fun same => front (congrArg some same)
    have apart := (List.isChain_cons_cons.mp apart).2
    rw [List.getLast?_cons_cons] at back
    by_cases between : next = '_'
    · subst between
      cases rest with
      | nil => exact absurd rfl back
      | cons third rest =>
          have third_ne := (List.isChain_cons_cons.mp apart).1.resolve_left (not_not.mpr rfl)
          refine .underscore small (isCore_of_isApart (List.forall_mem_cons.mp plain).2
            (List.isChain_cons_cons.mp apart).2 (List.cons_ne_nil _ _)
            (fun same => third_ne (Option.some.inj same)) ?_)
          rwa [List.getLast?_cons_cons] at back
    · exact .cons small (isCore_of_isApart plain apart (List.cons_ne_nil _ _)
        (fun same => between (Option.some.inj same)) back)

theorem head?_collapse (name : List Char) : (collapse name).head? = name.head? := by
  fun_induction collapse name with
  | case1 rest induction => exact induction
  | case2 => rfl
  | case3 => rfl

theorem isApart_collapse (name : List Char) : IsApart (collapse name) := by
  unfold IsApart
  fun_induction collapse name with
  | case1 rest induction => exact induction
  | case2 character rest single induction =>
      refine List.isChain_cons.mpr ⟨fun next held => ?_, induction⟩
      rw [Option.mem_def, head?_collapse] at held
      obtain ⟨others, rfl⟩ := List.head?_eq_some_iff.mp held
      by_contra both
      obtain ⟨rfl, rfl⟩ : character = '_' ∧ next = '_' := by simpa using both
      exact single others rfl rfl
  | case3 => exact List.isChain_nil

theorem trimUnderscores_within (name : List Char) : trimUnderscores name <:+: name :=
  (List.rdropWhile_prefix (· == '_') (name.dropWhile (· == '_'))).isInfix.trans
    (List.dropWhile_suffix _).isInfix

theorem head?_trimUnderscores_ne (name : List Char) : (trimUnderscores name).head? ≠ some '_' := by
  intro starts
  obtain ⟨rest, trimmed⟩ := List.head?_eq_some_iff.mp starts
  obtain ⟨dropped, parts⟩ := List.rdropWhile_prefix (· == '_') (name.dropWhile (· == '_'))
  have front : (name.dropWhile (· == '_')).head? = some '_' := by
    rw [← parts, show List.rdropWhile _ _ = trimUnderscores name from rfl, trimmed]
    rfl
  have none := List.head?_dropWhile_not (· == '_') name
  rw [front] at none
  contradiction

theorem getLast?_trimUnderscores_ne (name : List Char) :
    (trimUnderscores name).getLast? ≠ some '_' := by
  intro ends
  rw [trimUnderscores, List.getLast?_reverse] at ends
  have none := List.head?_dropWhile_not (· == '_') (name.dropWhile (· == '_')).reverse
  rw [ends] at none
  contradiction

theorem isPlain_of_mem_wordsJoined (name : List Char) :
    ∀ character ∈ wordsJoined name, IsPlain character := by
  intro character member
  have named := isNameCharacter_of_mem_wordsJoined name character member
  have replaced := collapse_subset _ (trimUnderscores_subset _ member)
  obtain ⟨source, lowered, kept⟩ := List.mem_map.mp replaced
  split at kept
  · obtain rfl := kept
    exact isPlain_of_isNameCharacter named (Text.isUncapped_of_mem_lowercase lowered)
  · exact .inr kept.symm

/-- The words of a name are a core, unless there are none. -/
theorem isCore_wordsJoined {name : List Char} (filled : wordsJoined name ≠ []) :
    IsCore (wordsJoined name) := by
  have apart : IsApart (wordsJoined name) :=
    List.IsChain.infix (isApart_collapse _) (trimUnderscores_within _)
  exact isCore_of_isApart (isPlain_of_mem_wordsJoined name) apart filled
    (head?_trimUnderscores_ne _) (getLast?_trimUnderscores_ne _)

theorem isCore_nameOrDefault_wordsJoined (name : List Char) :
    IsCore (nameOrDefault (wordsJoined name)) := by
  unfold nameOrDefault
  split
  · exact isCore_of_isApart (fun character member =>
      .inl (List.all_eq_true.mp (by decide) _ member))
      (by unfold IsApart; decide) (by decide) (by decide) (by decide)
  · next filled => exact isCore_wordsJoined fun none => filled (List.isEmpty_iff.mpr none)

theorem digitMark_cases (core : List Char) : digitMark core = [] ∨ digitMark core = ['_'] := by
  unfold digitMark
  split
  · exact .inr rfl
  · exact .inl rfl

theorem keywordMark_cases (core : List Char) :
    keywordMark core = [] ∨ keywordMark core = ['_'] := by
  unfold keywordMark
  split
  · exact .inr rfl
  · exact .inl rfl

/-- Keywords start with letters, and do not end with an underscore. -/
theorem ends_of_mem_keywords {word : String} (keyword : word ∈ keywords) :
    word.toList.head?.all (fun first => !isDigit first && first != '_') = true ∧
      word.toList.getLast? ≠ some '_' := by
  revert word
  decide

/-- A keyword with an underscore behind it is none any more. -/
theorem marked_not_mem_keywords (core : List Char) : String.ofList (marked core) ∉ keywords := by
  intro keyword
  obtain ⟨front, back⟩ := ends_of_mem_keywords keyword
  rw [String.toList_ofList] at front back
  rcases keywordMark_cases core with none | one
  · rcases digitMark_cases core with plain | guarded
    · have own : String.ofList core ∈ keywords := by simpa [marked, none, plain] using keyword
      simp [keywordMark, own] at none
    · simp [marked, guarded] at front
  · simp [marked, one] at back

theorem guardDigit_eq (name : List Char) : guardDigit name = digitMark name ++ name := by
  cases name with
  | nil => rfl
  | cons first rest =>
      rw [guardDigit, digitMark, List.head?_cons, Option.any_some]
      split
      · rfl
      · rfl

/-- An underscore in front of a digit makes no keyword, and takes none away. -/
theorem guardKeyword_eq (core : List Char) :
    guardKeyword (digitMark core ++ core) = marked core := by
  have same : String.ofList (digitMark core ++ core) ∈ keywords ↔
    String.ofList core ∈ keywords := by
    unfold digitMark
    split
    · next digit =>
      refine iff_of_false (fun keyword => ?_) fun keyword => ?_
      · simpa using (ends_of_mem_keywords keyword).1
      · obtain ⟨first, starts, digit⟩ := (Option.any_eq_true _ _).mp digit
        simpa [starts, digit] using (ends_of_mem_keywords keyword).1
    · exact Iff.rfl
  simp only [guardKeyword, marked, keywordMark, List.contains_iff_mem, same]
  split
  · rfl
  · exact (List.append_nil _).symm

theorem toList_argumentName (name : String) :
    (argumentName name).toList = marked (nameOrDefault (wordsJoined name.toList)) := by
  rw [argumentName, String.toList_ofList, guardDigit_eq, guardKeyword_eq]

theorem isNormal_argumentName (name : String) : IsNormal (argumentName name) :=
  ⟨_, isCore_nameOrDefault_wordsJoined _, toList_argumentName name⟩

namespace IsCore

theorem isPlain_marked (core : IsCore name) : ∀ character ∈ marked name, IsPlain character := by
  have front : ∀ character ∈ digitMark name, IsPlain character := by
    rcases digitMark_cases name with none | one
    · rw [none]
      exact nofun
    · rw [one]
      exact List.forall_mem_singleton.mpr (.inr rfl)
  have back : ∀ character ∈ keywordMark name, IsPlain character := by
    rcases keywordMark_cases name with none | one
    · rw [none]
      exact nofun
    · rw [one]
      exact List.forall_mem_singleton.mpr (.inr rfl)
  exact List.forall_mem_append.mpr ⟨List.forall_mem_append.mpr ⟨front, core.isPlain⟩, back⟩

theorem isApart_marked (core : IsCore name) : IsApart (marked name) := by
  obtain ⟨first, starts, firstSmall⟩ := core.exists_head
  obtain ⟨last, ends, lastSmall⟩ := core.exists_last
  have fronted : IsApart (digitMark name ++ name) := by
    rcases digitMark_cases name with none | one
    · rw [none]
      exact core.isApart
    · rw [one]
      refine List.isChain_cons.mpr ⟨fun next held => .inr ?_, core.isApart⟩
      obtain rfl := Option.some.inj (starts.symm.trans held)
      exact ne_underscore_of_isSmall firstSmall
  rcases keywordMark_cases name with none | one
  · rw [marked, none, List.append_nil]
    exact fronted
  · rw [marked, one]
    refine List.isChain_append.mpr ⟨fronted, List.isChain_singleton _,
      fun left held right _ => .inl ?_⟩
    rw [List.getLast?_append, ends, Option.some_or, Option.mem_def, Option.some.injEq] at held
    exact held ▸ ne_underscore_of_isSmall lastSmall

theorem isIdentifier_marked (core : IsCore name) : IsIdentifier (marked name) := by
  refine ⟨fun character member => (core.isPlain_marked character member).isNameCharacter, ?_⟩
  obtain ⟨first, starts, -⟩ := core.exists_head
  by_cases digit : isDigit first = true
  · exact ⟨'_', by simp [marked, digitMark, starts, digit], by decide⟩
  · exact ⟨first, by simp [marked, digitMark, starts, digit], by simpa using digit⟩

end IsCore

section Plain

variable (plain : ∀ character ∈ name, IsPlain character)

include plain

theorem cutBeforeCapital_eq_self : cutBeforeCapital name = name := by
  fun_induction cutBeforeCapital name with
  | case1 left right rest cut =>
      have lower := (plain right (by simp)).isUpper_eq_false
      simp [lower] at cut
  | case2 left right rest _ induction => rw [induction (List.forall_mem_cons.mp plain).2]
  | case3 => rfl

theorem cutAcronym_eq_self : cutAcronym [] name = name := by
  induction name with
  | nil => rfl
  | cons first rest induction =>
      obtain ⟨own, others⟩ := List.forall_mem_cons.mp plain
      rw [cutAcronym, own.isUpper_eq_false, induction others]
      · rfl
      · exact nofun

theorem lowercase_eq_self_of_isPlain : lowercase name = name :=
  Text.lowercase_eq_self fun character member =>
    ⟨(plain character member).isAscii, (plain character member).isUncapped⟩

theorem replaceOthers_eq_self : replaceOthers name = name :=
  (List.map_congr_left fun character member =>
    if_pos (plain character member).isNameCharacter).trans (List.map_id name)

end Plain

theorem collapse_eq_self (apart : IsApart name) : collapse name = name := by
  unfold IsApart at apart
  fun_induction collapse name with
  | case1 rest =>
      have first := (List.isChain_cons_cons.mp apart).1
      simp at first
  | case2 character rest _ induction => rw [induction (List.isChain_cons.mp apart).2]
  | case3 => rfl

theorem trimUnderscores_marked (core : IsCore name) : trimUnderscores (marked name) = name := by
  obtain ⟨first, starts, firstSmall⟩ := core.exists_head
  obtain ⟨last, ends, lastSmall⟩ := core.exists_last
  have fronted : (digitMark name ++ (name ++ keywordMark name)).dropWhile (· == '_') =
      name ++ keywordMark name := by
    obtain ⟨rest, rfl⟩ := List.head?_eq_some_iff.mp starts
    have stays := ne_underscore_of_isSmall firstSmall
    rcases digitMark_cases (first :: rest) with none | one
    · simp [none, stays]
    · simp [one, stays]
  rw [trimUnderscores, marked, List.append_assoc, fronted, List.reverse_append]
  obtain ⟨rest, reversed⟩ := List.head?_eq_some_iff.mp (List.head?_reverse.trans ends)
  have stays := ne_underscore_of_isSmall lastSmall
  have back : (name.reverse).dropWhile (· == '_') = name.reverse := by
    rw [reversed, List.dropWhile_cons_of_neg (by simpa using stays)]
  rcases keywordMark_cases name with none | one
  · simp [none, back]
  · simp [one, back]

theorem wordsJoined_marked (core : IsCore name) : wordsJoined (marked name) = name := by
  have plain := core.isPlain_marked
  rw [wordsJoined, cutBeforeCapital_eq_self plain, cutAcronym_eq_self plain,
    lowercase_eq_self_of_isPlain plain, replaceOthers_eq_self plain,
    collapse_eq_self core.isApart_marked, trimUnderscores_marked core]

/-- Normal names are named as they are. -/
theorem argumentName_eq_self {name : String} (normal : IsNormal name) :
    argumentName name = name := by
  obtain ⟨core, isCore, marks⟩ := normal
  obtain ⟨first, starts, -⟩ := isCore.exists_head
  have filled : core.isEmpty = false := by
    cases core with
    | nil => contradiction
    | cons => rfl
  rw [← String.toList_inj, toList_argumentName, marks, wordsJoined_marked isCore,
    nameOrDefault, filled]
  rfl

/-- The name of an argument is normal: an identifier of ASCII that is no keyword and has no two
underscores together. The normal names are those that naming leaves as they are, so naming twice is
naming once. -/
theorem argumentName_normal (name : String) :
    IsNormal (argumentName name) ∧ IsIdentifier (argumentName name).toList ∧
      argumentName name ∉ keywords ∧ ¬['_', '_'] <:+: (argumentName name).toList ∧
      argumentName (argumentName name) = argumentName name ∧
      (argumentName name = name ↔ IsNormal name) := by
  have normal := isNormal_argumentName name
  obtain ⟨core, isCore, marks⟩ := isNormal_argumentName name
  refine ⟨normal, ?_, ?_, ?_, argumentName_eq_self normal,
    fun same => same ▸ normal, argumentName_eq_self⟩
  · rw [marks]
    exact isCore.isIdentifier_marked
  · rw [← String.ofList_toList (s := argumentName name), marks]
    exact marked_not_mem_keywords core
  · rw [marks]
    exact not_infix_of_isApart isCore.isApart_marked

end ApiCompiler.Naming
