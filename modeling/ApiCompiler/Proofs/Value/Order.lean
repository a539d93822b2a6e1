import ApiCompiler.Value.Order
import Mathlib.Algebra.Order.Ring.Rat
import Mathlib.Data.List.Forall2
import Mathlib.Data.String.Basic

/-!
# Ranked values

Lists of values of which every two compare, and whose comparison carries on from one value to the
next. However such values are brought into rising order, the same values stand at every place but
for those that compare equal. Texts are ranked, and so are integers.
-/

namespace ApiCompiler.Value

/-- Comparing the other way round turns the sign. -/
theorem compare?_swap (one other : Value) :
    other.compare? one = (one.compare? other).map fun sign => -sign := by
  unfold compare?
  cases below? one other with
  | none => cases below? other one <;> rfl
  | some below =>
      cases below? other one with
      | none => rfl
      | some above => cases below <;> cases above <;> rfl

theorem compare?_eq_some_neg {one other : Value} {sign : Int}
    (known : one.compare? other = some sign) : other.compare? one = some (-sign) := by
  rw [compare?_swap, known, Option.map_some]

/-- The first of two values that compare is below or beside the second. -/
def NotAbove (one other : Value) : Prop :=
  ∃ sign ≤ 0, one.compare? other = some sign

/-- Two values that compare, neither of them below the other. -/
def Beside (one other : Value) : Prop :=
  one.compare? other = some 0

/-- Values that compare as members of a linear order do are not above one another just as these
are. -/
theorem notAbove_iff_le {β : Type} [LinearOrder β] {one other : Value} {first second : β}
    (tells : below? one other = some (decide (first < second)))
    (back : below? other one = some (decide (second < first))) :
      NotAbove one other ↔ first ≤ second := by
  have known : one.compare? other =
      some ((if second < first then 1 else 0) - (if first < second then 1 else 0)) := by
    simp [compare?, tells, back]
  rw [NotAbove, known]
  obtain below | rfl | above := lt_trichotomy first second
  · simp [below, below.le, below.not_gt]
  · simp
  · simp [above, above.not_gt, above.not_ge]

theorem beside_iff {one other : Value} : Beside one other ↔
    NotAbove one other ∧ NotAbove other one := by
  constructor
  · intro beside
    exact ⟨⟨0, le_rfl, beside⟩, 0, le_rfl, compare?_eq_some_neg beside⟩
  · rintro ⟨⟨sign, most, known⟩, back, least, again⟩
    rw [compare?_eq_some_neg known] at again
    have turned := Option.some.inj again
    have zero : sign = 0 := by omega
    rwa [zero] at known

/-- Every two values compare, and what is not above a value is not above what that is not above. -/
structure Ranked (items : List Value) : Prop where
  compares : ∀ one ∈ items, ∀ other ∈ items, ∃ sign, one.compare? other = some sign
  trans : ∀ one ∈ items, ∀ other ∈ items, ∀ last ∈ items,
    NotAbove one other → NotAbove other last → NotAbove one last

/-- No two different values are beside each other. -/
def Untied (items : List Value) : Prop :=
  ∀ one ∈ items, ∀ other ∈ items, Beside one other → one = other

/-- The number of values that are not above another. -/
def beneath (items : List Value) (value : Value) : Nat :=
  items.countP fun item => (item.compare? value).any fun sign => decide (sign ≤ 0)

theorem any_compare?_iff {one other : Value} :
    (one.compare? other).any (fun sign => decide (sign ≤ 0)) = true ↔ NotAbove one other := by
  rw [Option.any_eq_true, NotAbove]
  simp only [decide_eq_true_iff, and_comm]

namespace Ranked

variable {items : List Value} (ranked : Ranked items)

include ranked

theorem notAbove_or {one other : Value} (own : one ∈ items) (next : other ∈ items) :
    NotAbove one other ∨ NotAbove other one := by
  obtain ⟨sign, known⟩ := ranked.compares one own other next
  obtain most | least := le_total sign 0
  · exact Or.inl ⟨sign, most, known⟩
  · exact Or.inr ⟨-sign, by omega, compare?_eq_some_neg known⟩

theorem notAbove_refl {one : Value} (own : one ∈ items) : NotAbove one one :=
  (ranked.notAbove_or own own).elim id id

/-- What is not above a value is not above what that is not above. -/
theorem beneath_le {one other : Value} (own : one ∈ items) (next : other ∈ items)
    (ordered : NotAbove one other) {among : List Value} (inside : among ⊆ items) :
    beneath among one ≤ beneath among other := by
  refine List.countP_mono_left fun item member below => ?_
  exact any_compare?_iff.mpr
    (ranked.trans item (inside member) one own other next (any_compare?_iff.mp below) ordered)

/-- A value that is above another has more values that are not above it. -/
theorem beneath_lt {one other : Value} (own : one ∈ items) (next : other ∈ items)
    (ordered : NotAbove one other) (differs : ¬NotAbove other one) :
    beneath items one < beneath items other := by
  obtain ⟨front, back, whole⟩ := List.append_of_mem next
  have inFront : front ⊆ items := whole ▸ List.subset_append_left front (other :: back)
  have inBack : back ⊆ items := by
    rw [whole]
    exact fun item member => List.mem_append_right front (List.mem_cons_of_mem other member)
  have first := ranked.beneath_le own next ordered inFront
  have second := ranked.beneath_le own next ordered inBack
  have parts (value : Value) : beneath items value =
    beneath front value + beneath (other :: back) value := by
    rw [whole]
    exact List.countP_append
  have skipped : beneath (other :: back) one = beneath back one :=
    List.countP_cons_of_neg fun counted => differs (any_compare?_iff.mp counted)
  have counted : beneath (other :: back) other = beneath back other + 1 :=
    List.countP_cons_of_pos (any_compare?_iff.mpr (ranked.notAbove_refl next))
  rw [parts, parts, skipped, counted]
  omega

theorem beside_of_beneath_eq {one other : Value} (own : one ∈ items) (next : other ∈ items)
    (same : beneath items one = beneath items other) : Beside one other := by
  by_contra apart
  obtain ordered | ordered := ranked.notAbove_or own next
  · exact absurd same (Nat.ne_of_lt (ranked.beneath_lt own next ordered
      fun back => apart (beside_iff.mpr ⟨ordered, back⟩)))
  · exact absurd same (Nat.ne_of_gt (ranked.beneath_lt next own ordered
      fun back => apart (beside_iff.mpr ⟨back, ordered⟩)))

/-- Two lists of the same values in rising order have values beside each other at every place. -/
theorem forall₂_beside {left right : List Value} (permLeft : left.Perm items)
    (permRight : right.Perm items) (risesLeft : left.Pairwise NotAbove)
    (risesRight : right.Pairwise NotAbove) : List.Forall₂ Beside left right := by
  have risen {list : List Value} (perm : list.Perm items) (rises : list.Pairwise NotAbove) :
      (list.map (beneath items)).Pairwise (· ≤ ·) :=
    List.pairwise_map.mpr (rises.imp_of_mem fun own next =>
      fun ordered =>
        ranked.beneath_le (perm.subset own) (perm.subset next) ordered (List.Subset.refl _))
  have same : left.map (beneath items) = right.map (beneath items) :=
    ((permLeft.trans permRight.symm).map _).eq_of_pairwise (fun _ _ _ _ => Nat.le_antisymm)
      (risen permLeft risesLeft) (risen permRight risesRight)
  refine List.forall₂_iff_zip.mpr ⟨permLeft.length_eq.trans permRight.length_eq.symm, ?_⟩
  intro one other together
  obtain ⟨own, next⟩ := List.of_mem_zip together
  refine ranked.beside_of_beneath_eq (permLeft.subset own) (permRight.subset next) ?_
  have ranks := List.forall₂_iff_zip.mp
    (List.forall₂_map_left_iff.mp (List.forall₂_map_right_iff.mp (List.forall₂_eq_eq_eq ▸ same)))
  exact ranks.2 together

end Ranked

/-- There is one rising order of untied values. -/
theorem Untied.eq_of_rising {items left right : List Value} (apart : Untied items)
    (permLeft : left.Perm items) (permRight : right.Perm items) (risesLeft : left.Pairwise NotAbove)
    (risesRight : right.Pairwise NotAbove) : left = right := by
  refine (permLeft.trans permRight.symm).eq_of_pairwise (fun one other own next ordered back => ?_)
    risesLeft risesRight
  exact apart one (permLeft.subset own) other (permRight.subset next)
    (beside_iff.mpr ⟨ordered, back⟩)

section Made

variable {β : Type} [LinearOrder β] {make : β → Value}
  (tells : ∀ one other, below? (make one) (make other) = some (decide (one < other)))

include tells

theorem notAbove_made_iff {one other : β} : NotAbove (make one) (make other) ↔ one ≤ other :=
  notAbove_iff_le (tells one other) (tells other one)

/-- Values that are made of linearly ordered ones and compare as these do are ranked and untied. -/
theorem ranked_and_untied_map (keys : List β) :
    Ranked (keys.map make) ∧ Untied (keys.map make) := by
  refine ⟨⟨?_, ?_⟩, ?_⟩ <;>
    simp only [Untied, List.forall_mem_map, beside_iff, notAbove_made_iff tells]
  · intro one _ other _
    exact ⟨_, by rw [compare?, tells, tells]; rfl⟩
  · exact fun one _ other _ last _ => le_trans
  · exact fun one _ other _ both => congrArg make (le_antisymm both.1 both.2)

end Made

theorem textBelow_iff {left right : List Char} : textBelow left right = true ↔ left < right := by
  induction left generalizing right with
  | nil => cases right <;> simp [textBelow]
  | cons first left induction =>
      cases right with
      | nil => simp [textBelow]
      | cons second right =>
          rw [textBelow, List.cons_lt_cons_iff]
          split
          · next same => simp [same, induction]
          · next differs => simp [differs]

theorem ranked_and_untied_texts (texts : List String) :
    Ranked (texts.map .str) ∧ Untied (texts.map .str) := by
  have tells (one other : String) : below? (.str one) (.str other) =
    some (decide (one < other)) := by
    refine congrArg some (Bool.eq_iff_iff.mpr ?_)
    rw [textBelow_iff, decide_eq_true_iff, String.lt_iff_toList_lt]
  exact ranked_and_untied_map tells texts

theorem ranked_and_untied_integers (numbers : List Int) :
    Ranked (numbers.map .int) ∧ Untied (numbers.map .int) := by
  have tells (one other : Int) : below? (.int one) (.int other) = some (decide (one < other)) := by
    refine congrArg some (Bool.eq_iff_iff.mpr ?_)
    rw [Size.below, decide_eq_true_iff, decide_eq_true_iff, Rat.intCast_lt_intCast]
  exact ranked_and_untied_map tells numbers

end ApiCompiler.Value
