import ApiCompiler.Files.Content
import ApiCompiler.Module.Fragment
import ApiCompiler.Proofs.Naming
import ApiCompiler.Proofs.Text.Pieces
import ApiCompiler.Proofs.Text.Quoted
import ApiCompiler.Text.Spare

/-!
# Carriage returns in texts

Where carriage returns stay in a text: quoted texts, names and lines that are pushed right lose all
of theirs, prose on lines of its own keeps those between its ends. A text reads back as it was
written exactly where it holds none.
-/

namespace ApiCompiler.Text

theorem return_not_mem_normalizeNewlines (text : List Char) : '\r' ∉ normalizeNewlines text := by
  fun_induction normalizeNewlines text with
  | case1 rest induction => simpa using induction
  | case2 rest _ induction => simpa using induction
  | case3 character rest _ differs induction =>
      have plain : character ≠ '\r' := differs
      simp [induction, Ne.symm plain]
  | case4 => simp

theorem normalizeNewlines_eq_self_iff (text : List Char) :
    normalizeNewlines text = text ↔ '\r' ∉ text := by
  constructor
  · intro same
    rw [← same]
    exact return_not_mem_normalizeNewlines text
  · intro absent
    fun_induction normalizeNewlines text with
    | case1 rest _ => simp at absent
    | case2 rest _ _ => simp at absent
    | case3 character rest _ _ induction =>
        rw [List.mem_cons, not_or] at absent
        rw [induction absent.2]
    | case4 => rfl

theorem return_not_mem_gatherLines {line text : List Char} (plain : '\r' ∉ line) :
    ∀ gathered ∈ gatherLines line text, '\r' ∉ gathered := by
  fun_induction gatherLines line text with
  | case1 => simp
  | case2 line => simpa using plain
  | case3 line rest induction =>
      rw [List.forall_mem_cons]
      exact ⟨by simpa using plain, induction List.not_mem_nil⟩
  | case4 line character rest _ ends induction =>
      rw [List.forall_mem_cons]
      exact ⟨by simpa using plain, induction List.not_mem_nil⟩
  | case5 line character rest _ inner induction =>
      refine induction ?_
      rw [List.mem_cons, not_or]
      refine ⟨?_, plain⟩
      rintro rfl
      exact inner (by decide)

/-- Pushing lines right ends them all by line feeds. -/
theorem return_not_mem_indentAfterFirst (width : Nat) (text : List Char) :
    '\r' ∉ indentAfterFirst width text := by
  have cut : ∀ line ∈ lines (text ++ ['\n']), '\r' ∉ line :=
    return_not_mem_gatherLines List.not_mem_nil
  unfold indentAfterFirst
  cases found : lines (text ++ ['\n']) with
  | nil => simp
  | cons first rest =>
      rw [found, List.forall_mem_cons] at cut
      have pushed : ∀ line ∈ rest.map fun line =>
          if line.isEmpty then line else List.replicate width ' ' ++ line, '\r' ∉ line := by
        intro line member
        obtain ⟨line, held, rfl⟩ := List.mem_map.mp member
        have plain := cut.2 line held
        split
        · exact plain
        · rw [List.mem_append, not_or]
          refine ⟨fun blank => ?_, plain⟩
          exact absurd (List.eq_of_mem_replicate blank) (by decide)
      intro member
      rcases mem_joinWith member with ⟨line, held, inside⟩ | separating
      · rcases List.mem_cons.mp held with rfl | later
        · exact cut.1 inside
        · exact pushed line later inside
      · exact absurd separating (by decide)

/-- Whether a carriage return stays in a text that loses the blanks at its ends. -/
def keepsReturn (text : String) : Bool :=
  (trim text.toList).contains '\r'

theorem keepsReturn_empty : keepsReturn "" = false := rfl

theorem return_mem_escapeProse_iff {character : Char} :
    '\r' ∈ Module.escapeProse character ↔ '\r' = character := by
  unfold Module.escapeProse
  split
  · rename_i marked
    rw [Bool.or_eq_true, decide_eq_true_eq, decide_eq_true_eq] at marked
    rcases marked with rfl | rfl <;> decide
  · simp

/-- Prose holds the carriage returns between its ends. -/
theorem return_mem_prose_iff {text : String} :
    '\r' ∈ Module.prose text ↔ keepsReturn text = true := by
  simp [Module.prose, keepsReturn, return_mem_escapeProse_iff]

theorem return_not_mem_argumentName (name : String) : '\r' ∉ (Naming.argumentName name).toList :=
  fun member => absurd (Naming.isNameCharacter_of_mem_argumentName name '\r' member) (by decide)

/-- Whether a text holds a carriage return. -/
def holdsReturn (text : String) : Bool :=
  text.toList.contains '\r'

theorem holdsReturn_eq_false_iff {text : String} :
    holdsReturn text = false ↔ '\r' ∉ text.toList := by
  simp [holdsReturn]

theorem holdsReturn_ofList (characters : List Char) :
    holdsReturn (String.ofList characters) = characters.contains '\r' := by
  simp [holdsReturn]

@[simp] theorem holdsReturn_append (left right : String) :
    holdsReturn (left ++ right) = (holdsReturn left || holdsReturn right) := by
  simp [holdsReturn]

@[simp] theorem holdsReturn_join (texts : List String) :
    holdsReturn (String.join texts) = texts.any holdsReturn := by
  rw [holdsReturn, String.toList_join, Bool.eq_iff_iff]
  simp [holdsReturn]

theorem holdsReturn_intercalate {separator : String} (plain : holdsReturn separator = false)
    (texts : List String) :
    holdsReturn (String.intercalate separator texts) = texts.any holdsReturn := by
  induction texts with
  | nil => rfl
  | cons text texts induction =>
      cases texts with
      | nil => simp
      | cons next texts =>
          rw [String.intercalate_cons_cons, holdsReturn_append,
            holdsReturn_append, plain, induction]
          simp

@[simp] theorem holdsReturn_quoted (text : String) : holdsReturn (quoted text) = false := by
  rw [quoted, holdsReturn_eq_false_iff, String.toList_ofList]
  exact fun member => (unbroken_quote text.toList '\r' member).2 rfl

@[simp] theorem holdsReturn_proseOf (text : String) :
    holdsReturn (Module.proseOf text) = keepsReturn text := by
  rw [Module.proseOf, holdsReturn_ofList, Bool.eq_iff_iff, List.contains_iff_mem]
  exact return_mem_prose_iff

@[simp] theorem holdsReturn_proseAt (width : Nat) (text : String) :
    holdsReturn (Module.proseAt width text) = false := by
  rw [Module.proseAt, holdsReturn_eq_false_iff, String.toList_ofList]
  exact return_not_mem_indentAfterFirst width _

@[simp] theorem holdsReturn_argumentName (name : String) :
    holdsReturn (Naming.argumentName name) = false :=
  holdsReturn_eq_false_iff.mpr (return_not_mem_argumentName name)

/-- A text reads back as it was written exactly where it holds no carriage return. -/
theorem readText_eq_self_iff {text : String} :
    Files.Content.readText text = text ↔ holdsReturn text = false := by
  rw [holdsReturn_eq_false_iff, ← normalizeNewlines_eq_self_iff, Files.Content.readText]
  constructor
  · intro same
    have lists := congrArg String.toList same
    rwa [String.toList_ofList] at lists
  · intro same
    rw [same, String.ofList_toList]

theorem return_not_mem_escapeCode (code : Nat) : '\r' ∉ escapeCode code := by
  have digits (width : Nat) : '\r' ∉ hexDigits width code := fun member =>
    forall_mem_hexDigits (· ≠ '\r') (by decide) width code '\r' member rfl
  unfold escapeCode
  split
  · simp [digits]
  · split <;> simp [digits]

theorem return_not_mem_of_mapM {digits : List Char} {values : List Nat}
    (read : digits.mapM (baseDigit? 16) = some values) : '\r' ∉ digits := by
  intro member
  induction digits generalizing values with
  | nil => exact List.not_mem_nil member
  | cons digit digits induction =>
      rw [List.mapM_cons] at read
      obtain ⟨value, own, read⟩ := Option.bind_eq_some_iff.mp read
      obtain ⟨others, rest, -⟩ := Option.bind_eq_some_iff.mp read
      obtain rfl | member := List.mem_cons.mp member
      · have foreign : baseDigit? 16 '\r' = none := by decide
        rw [foreign] at own
        contradiction
      · exact induction rest member

/-- What a long escape takes behind its backslash are its letter and its digits. -/
theorem return_not_mem_of_escapedHalf? {first half : Nat} {rest : List Char}
    (escaped : Spares.escapedHalf? first rest = some half) : '\r' ∉ rest.take 9 := by
  unfold Spares.escapedHalf? at escaped
  split at escaped
  · next digits =>
    obtain ⟨values, read, -⟩ := Option.bind_eq_some_iff.mp escaped
    simpa using return_not_mem_of_mapM read
  · contradiction

/-- Spelling a text without the characters of a row neither takes a carriage return away nor adds
one. -/
theorem return_mem_respell_iff {first passed : Nat} {text spelling : List Char}
    (spelled : Spares.respell first passed text = some spelling) :
    '\r' ∈ spelling ↔ '\r' ∈ text.drop passed := by
  fun_induction Spares.respell first passed text generalizing spelling with
  | case1 passed =>
      obtain rfl := Option.some.inj spelled
      simp
  | case2 passed character rest induction => exact induction spelled
  | case3 rest half escaped induction =>
      obtain ⟨others, behind, rfl⟩ := Option.map_eq_some_iff.mp spelled
      have split := List.take_append_drop 9 rest
      rw [List.mem_append, induction behind, List.drop_zero,
        List.mem_cons, ← split, List.mem_append]
      simp [return_not_mem_escapeCode, return_not_mem_of_escapedHalf? escaped]
  | case4 rest whole begins induction =>
      obtain ⟨others, behind, rfl⟩ := Option.map_eq_some_iff.mp spelled
      obtain ⟨tail, rfl⟩ := List.head?_eq_some_iff.mp begins
      simp [induction behind]
  | case5 rest whole differs induction =>
      obtain ⟨others, behind, rfl⟩ := Option.map_eq_some_iff.mp spelled
      simp [induction behind]
  | case6 => contradiction
  | case7 character rest _ apart induction =>
      obtain ⟨others, behind, rfl⟩ := Option.map_eq_some_iff.mp spelled
      simp [induction behind]

end ApiCompiler.Text
