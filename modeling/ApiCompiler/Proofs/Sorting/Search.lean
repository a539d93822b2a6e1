import ApiCompiler.Sorting.Merge
import Mathlib.Data.List.Basic

/-!
# Searching ordered lists

What searching finds in a list of items that a comparison ranks: how many items at its front pass a
test, and the place of another item among them.
-/

namespace ApiCompiler.Sorting

variable {α : Type}

/-- Halving finds the bound of the places that pass. -/
theorem halve_eq {test : Nat → Option Bool} (early : Bool) {bound low high : Nat}
    (least : low ≤ bound)
    (most : bound ≤ high)
    (tests : ∀ place, low ≤ place → place < high → test place = some (decide (place < bound))) :
    halve test early low high = some bound := by
  induction width : high - low using Nat.strongRecOn generalizing low high with
  | ind width induction =>
      rw [halve]
      by_cases range : low < high
      · rw [if_pos range]
        dsimp only
        generalize place : low + (if early = true then high - low - 1 else high - low) / 2 = middle
        have within : low ≤ middle ∧ middle < high := by
          subst place
          constructor
          · omega
          · split <;> omega
        rw [tests middle within.1 within.2, Option.bind_eq_bind, Option.bind_some]
        by_cases passes : middle < bound
        · rw [decide_eq_true passes, if_pos rfl]
          exact induction _ (by omega) passes most
            (fun place above below => tests place (by omega) below) rfl
        · rw [decide_eq_false passes, if_neg Bool.false_ne_true]
          exact induction _ (by omega) least (by omega)
            (fun place above below => tests place above (by omega)) rfl
      · rw [if_neg range]
        exact congrArg some (by omega)

/-- Strides find the bound of the places that pass, of which one is known. -/
theorem strideFrom_eq {test : Nat → Option Bool} (early : Bool) {bound count last next : Nat}
    (known : last < bound) (most : bound ≤ count) (further : last < next)
    (tests : ∀ place < count, test place = some (decide (place < bound))) :
    strideFrom test early count last next = some bound := by
  induction width : count - next using Nat.strongRecOn generalizing last next with
  | ind width induction =>
      rw [strideFrom]
      by_cases range : next < count
      · rw [if_pos range, tests next range, Option.bind_eq_bind, Option.bind_some]
        by_cases passes : next < bound
        · rw [decide_eq_true passes, if_pos rfl]
          exact induction _ (by omega) passes (by omega) rfl
        · rw [decide_eq_false passes, if_neg Bool.false_ne_true]
          exact halve_eq early known (by omega) fun place _ below => tests place (by omega)
      · rw [if_neg range]
        exact halve_eq early known most fun place _ below => tests place below

/-- A test passes at a place of a list that its items pass up to some point if the place is before
it. -/
theorem test_getElem? {test : α → Option Bool} {front back : List α}
    (passing : ∀ item ∈ front, test item = some true)
    (failing : ∀ item ∈ back, test item = some false)
    {place : Nat} (inside : place < (front ++ back).length) :
    ((front ++ back)[place]?).bind test = some (decide (place < front.length)) := by
  by_cases before : place < front.length
  · rw [List.getElem?_append_left before, List.getElem?_eq_getElem before, Option.bind_some,
      passing _ (List.getElem_mem before), decide_eq_true before]
  · rw [List.length_append] at inside
    have behind : place - front.length < back.length := by omega
    rw [List.getElem?_append_right (by omega), List.getElem?_eq_getElem behind, Option.bind_some,
      failing _ (List.getElem_mem behind), decide_eq_false before]

theorem leading_append (early : Bool) {test : α → Option Bool} {front back : List α}
    (passing : ∀ item ∈ front, test item = some true)
    (failing : ∀ item ∈ back, test item = some false) :
    leading early test (front ++ back) = some front.length := by
  cases front with
  | nil =>
      cases back with
      | nil => rfl
      | cons first back =>
          rw [List.nil_append, leading, failing first List.mem_cons_self]
          rfl
  | cons first front =>
      rw [List.cons_append, leading, passing first List.mem_cons_self, Option.bind_eq_bind,
        Option.bind_some, if_pos rfl]
      refine strideFrom_eq early (Nat.succ_pos _) ?_ Nat.zero_lt_one fun place inside =>
        test_getElem? passing failing inside
      rw [← List.cons_append, List.length_append]
      exact Nat.le_add_right _ _

/-- Where no item passes a test behind one that fails it, those that pass are in front. -/
theorem exists_front_back {passes : α → Bool} {items : List α}
    (apart : items.Pairwise fun first second => passes second = true → passes first = true) :
    ∃ front back, items = front ++ back ∧ (∀ item ∈ front, passes item = true) ∧
      ∀ item ∈ back, passes item = false := by
  induction items with
  | nil => exact ⟨[], [], rfl, List.forall_mem_nil _, List.forall_mem_nil _⟩
  | cons first items induction =>
      obtain ⟨own, rest⟩ := List.pairwise_cons.mp apart
      obtain ⟨front, back, rfl, passing, failing⟩ := induction rest
      cases head : passes first with
      | true =>
          exact ⟨first :: front, back, rfl, List.forall_mem_cons.mpr ⟨head, passing⟩, failing⟩
      | false =>
          have all : ∀ item ∈ front ++ back, passes item = false := fun item member =>
            Bool.eq_false_iff.mpr fun passed =>
              Bool.false_ne_true (head.symm.trans (own item member passed))
          exact ⟨[], first :: (front ++ back), rfl, List.forall_mem_nil _,
            List.forall_mem_cons.mpr ⟨head, all⟩⟩

/-- Strides find the items at the front that pass a test that no item passes behind one that
fails. -/
theorem exists_leading (early : Bool) {test : α → Option Bool} {passes : α → Bool} {items : List α}
    (tests : ∀ item ∈ items, test item = some (passes item))
    (apart : items.Pairwise fun first second => passes second = true → passes first = true) :
    ∃ front back, items = front ++ back ∧ leading early test items = some front.length ∧
      (∀ item ∈ front, passes item = true) ∧ ∀ item ∈ back, passes item = false := by
  obtain ⟨front, back, rfl, passing, failing⟩ := exists_front_back apart
  refine ⟨front, back, rfl, leading_append early (fun item member => ?_)
    fun item member => ?_, passing, failing⟩
  · rw [tests item (List.mem_append_left _ member), passing item member]
  · rw [tests item (List.mem_append_right _ member), failing item member]

/-- A comparison ranks items if none goes before one that goes before it, or that does not come
behind one behind which it does not come either. -/
structure Ranks (before : α → α → Bool) (among : α → Prop) : Prop where
  asymm : ∀ {one other}, among one → among other → before one other = true →
    before other one = false
  trans : ∀ {one other last}, among one → among other → among last →
    before other one = false → before last other = false → before last one = false

/-- Each two of some items compare, and comparing ranks them. -/
structure Compares (below? : α → α → Option Bool) (before : α → α → Bool) (among : α → Prop) : Prop
    extends Ranks before among where
  tells : ∀ {one other}, among one → among other → below? one other = some (before one other)

/-- Items of which none goes before one in front of it. -/
abbrev Rises (before : α → α → Bool) (items : List α) : Prop :=
  items.Pairwise fun first second => before second first = false

/-- Items of which none has to go behind one of some others. -/
def Leads (before : α → α → Bool) (items others : List α) : Prop :=
  ∀ item ∈ items, ∀ other ∈ others, before other item = false

/-- Items that all go before some others. -/
def Precedes (before : α → α → Bool) (items others : List α) : Prop :=
  ∀ item ∈ items, ∀ other ∈ others, before item other = true

/-- The same items, and those of which none goes before another are still in the same order. -/
structure Keeps (before : α → α → Bool) (made items : List α) : Prop where
  perm : made.Perm items
  ties (group : α → Bool) : (∀ one ∈ items, ∀ other ∈ items, group one = true → group other = true →
    before one other = false) → made.filter group = items.filter group

variable {before : α → α → Bool} {among : α → Prop}

theorem rises_append_iff {front back : List α} :
    Rises before (front ++ back) ↔ Rises before front ∧ Rises before back ∧
      Leads before front back :=
  List.pairwise_append

namespace Keeps

variable {made items : List α}

theorem refl (items : List α) : Keeps before items items :=
  ⟨List.Perm.refl items, fun _ _ => rfl⟩

theorem trans {last : List α} (first : Keeps before last made) (next : Keeps before made items) :
    Keeps before last items where
  perm := first.perm.trans next.perm
  ties group tied := by
    rw [← next.ties group tied]
    exact first.ties group fun one own other held =>
      tied one (next.perm.subset own) other (next.perm.subset held)

theorem append {others more : List α} (front : Keeps before made items)
    (back : Keeps before others more) :
    Keeps before (made ++ others) (items ++ more) where
  perm := front.perm.append back.perm
  ties group tied := by
    rw [List.filter_append, List.filter_append,
      front.ties group fun one own other held =>
        tied one (List.mem_append_left _ own) other (List.mem_append_left _ held),
      back.ties group fun one own other held =>
        tied one (List.mem_append_right _ own) other (List.mem_append_right _ held)]

theorem append_left (front : List α) (keeps : Keeps before made items) :
    Keeps before (front ++ made) (front ++ items) :=
  (refl front).append keeps

theorem append_right (keeps : Keeps before made items) (back : List α) :
    Keeps before (made ++ back) (items ++ back) :=
  keeps.append (refl back)

/-- Items may move in front of others that they go before. -/
theorem swap {front back : List α} (goes : Precedes before front back) :
    Keeps before (front ++ back) (back ++ front) where
  perm := List.perm_append_comm
  ties group tied := by
    rw [List.filter_append, List.filter_append]
    by_cases some : ∃ one ∈ front, group one = true
    · obtain ⟨one, own, grouped⟩ := some
      have none : back.filter group = [] := by
        refine List.filter_eq_nil_iff.mpr fun other held also => ?_
        have apart :=
          tied one (List.mem_append_right _ own) other (List.mem_append_left _ held) grouped also
        rw [goes one own other held] at apart
        contradiction
      rw [none, List.append_nil, List.nil_append]
    · have none : front.filter group = [] :=
        List.filter_eq_nil_iff.mpr fun one own grouped => some ⟨one, own, grouped⟩
      rw [none, List.append_nil, List.nil_append]

theorem reverse (keeps : Keeps before made items) : Keeps before made.reverse items.reverse where
  perm := (List.reverse_perm _).trans (keeps.perm.trans (List.reverse_perm _).symm)
  ties group tied := by
    rw [List.filter_reverse, List.filter_reverse, keeps.ties group fun one own other held =>
      tied one (List.mem_reverse.mpr own) other (List.mem_reverse.mpr held)]

/-- The same comparison the other way round tells the same items apart. -/
theorem flip (keeps : Keeps (fun one other => before other one) made items) :
    Keeps before made items :=
  ⟨keeps.perm, fun group tied => keeps.ties group fun one own other held first second =>
    tied other held one own second first⟩

end Keeps

namespace Ranks

variable (ranks : Ranks before among)

include ranks

/-- The same comparison the other way round. -/
theorem flip : Ranks (fun one other => before other one) among where
  asymm first second := ranks.asymm second first
  trans first second third one other := ranks.trans third second first other one

/-- What goes before an item goes before all that are not before this one. -/
theorem before_of_before {one other last : α} (first : among one) (second : among other)
    (third : among last)
    (goes : before one other = true) (ordered : before last other = false) :
      before one last = true := by
  by_contra stays
  have behind := ranks.trans second third first ordered (Bool.eq_false_iff.mpr stays)
  rw [goes] at behind
  contradiction

theorem leads_of_precedes {items others : List α} (all : ∀ item ∈ items, among item)
    (also : ∀ other ∈ others, among other) (goes : Precedes before items others) :
    Leads before items others := fun item member other within =>
  ranks.asymm (all item member) (also other within) (goes item member other within)

/-- In rising items those that an item does not go before are in front. -/
theorem apart_not_before {items : List α} (all : ∀ item ∈ items, among item) {item : α}
    (own : among item) (rises : Rises before items) :
    items.Pairwise fun first second => (!before item second) = true →
      (!before item first) = true := by
  refine rises.imp_of_mem fun first second ordered => ?_
  rw [Bool.not_eq_true', Bool.not_eq_true']
  exact ranks.trans (all _ first) (all _ second) own ordered

/-- In rising items those that go before an item are in front. -/
theorem apart_before {items : List α} (all : ∀ item ∈ items, among item) {item : α}
    (own : among item)
    (rises : Rises before items) :
    items.Pairwise fun first second => before second item = true → before first item = true := by
  refine rises.imp_of_mem fun {one other} first second ordered below => ?_
  by_contra above
  have behind := ranks.trans own (all _ first) (all _ second) (Bool.eq_false_iff.mpr above) ordered
  rw [below] at behind
  contradiction

end Ranks

/-- An item is put among rising items so that they still rise. -/
theorem exists_insertByHalving {below? : α → α → Option Bool}
    (compares : Compares below? before among)
    {item : α} {ordered : List α} (own : among item) (all : ∀ other ∈ ordered, among other)
    (rises : Rises before ordered) :
    ∃ made, insertByHalving below? item ordered = some made ∧
      Keeps before made (ordered ++ [item]) ∧
      Rises before made := by
  obtain ⟨front, back, rfl, passing, failing⟩ :=
    exists_front_back (compares.apart_not_before all own rises)
  simp only [Bool.not_eq_true', Bool.not_eq_false'] at passing failing
  obtain ⟨allFront, allBack⟩ := List.forall_mem_append.mp all
  have found : halve (fun place => do
      let other ← (front ++ back)[place]?
      return !(← below? item other)) false 0 (front ++ back).length = some front.length := by
    refine halve_eq false (Nat.zero_le _) ?_ fun place _ inside =>
      test_getElem? (fun other member => ?_) (fun other member => ?_) inside
    · rw [List.length_append]
      exact Nat.le_add_right _ _
    · rw [compares.tells own (allFront other member), passing other member]
      rfl
    · rw [compares.tells own (allBack other member), failing other member]
      rfl
  refine ⟨front ++ item :: back, ?_, ?_, ?_⟩
  · rw [insertByHalving, found, Option.bind_eq_bind, Option.bind_some,
      List.take_left, List.drop_left]
    rfl
  · rw [List.append_assoc]
    exact (Keeps.swap (List.forall_mem_singleton.mpr failing)).append_left front
  · obtain ⟨first, second, leads⟩ := rises_append_iff.mp rises
    refine rises_append_iff.mpr ⟨first, List.pairwise_cons.mpr ⟨fun other member => ?_, second⟩,
      fun one member => List.forall_mem_cons.mpr ⟨passing one member, leads one member⟩⟩
    exact compares.asymm own (allBack other member) (failing other member)

end ApiCompiler.Sorting
