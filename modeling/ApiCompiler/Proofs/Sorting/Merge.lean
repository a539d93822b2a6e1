import ApiCompiler.Proofs.Sorting.Search
import ApiCompiler.Sorting.Merge

/-!
# Merging ordered runs

Two runs that rise merge into one that rises. Whether items are taken one by one or by stretches,
each step takes some that lead all that is left, and leaves the rest of both sides in order; the
last item of the side that lies apart stays behind the whole other side.
-/

namespace ApiCompiler.Sorting

variable {α : Type}

/-- The comparison by which a merge in some direction takes items. -/
def directed (before : α → α → Bool) (upward : Bool) (one other : α) : Bool :=
  if upward then before one other else before other one

/-- Two sides that can be merged in the order of a comparison. -/
structure Ready (first : α → α → Bool) (among : α → Prop) (kept other : List α) : Prop where
  keptAmong : ∀ item ∈ kept, among item
  otherAmong : ∀ item ∈ other, among item
  keptRises : Rises first kept
  otherRises : Rises first other
  /-- The last item of the kept side goes behind all others. -/
  last : ∀ last ∈ kept.getLast?, Precedes first other [last]

/-- What is taken of two sides leads what is left of them. -/
structure Takes (first : α → α → Bool) (kept other taken keptRest otherRest : List α) : Prop where
  keeps : Keeps first (taken ++ (keptRest ++ otherRest)) (kept ++ other)
  rises : Rises first taken
  leads : Leads first taken (keptRest ++ otherRest)
  keptSuffix : keptRest <:+ kept
  otherSuffix : otherRest <:+ other

variable {before first : α → α → Bool} {among : α → Prop}

theorem Ranks.directed (ranks : Ranks before among) (upward : Bool) :
    Ranks (directed before upward) among := by
  cases upward with
  | true => exact ranks
  | false => exact ranks.flip

/-- None of some rising items goes before the first. -/
theorem Ranks.before_head_eq_false (ranks : Ranks first among) {head : α} {items : List α}
    (own : among head) (rises : Rises first (head :: items)) :
    ∀ item ∈ head :: items, first item head = false := by
  refine List.forall_mem_cons.mpr ⟨?_, (List.pairwise_cons.mp rises).1⟩
  cases goes : first head head with
  | false => rfl
  | true => exact goes.symm.trans (ranks.asymm own own goes)

/-- The last of some rising items goes before none of them. -/
theorem Ranks.last_before_eq_false (ranks : Ranks first among) {last : α} {items : List α}
    (own : among last) (rises : Rises first (items ++ [last])) :
    ∀ item ∈ items ++ [last], first last item = false := by
  intro item member
  have reversed := List.pairwise_reverse.mpr rises
  rw [List.reverse_concat] at reversed
  refine ranks.flip.before_head_eq_false own reversed item ?_
  rwa [← List.reverse_concat, List.mem_reverse]

namespace Takes

variable {kept other taken keptRest otherRest : List α}

/-- Items of the kept side are taken that lead the other side. -/
theorem ofKept {front back : List α} (rises : Rises first (front ++ back))
    (leads : Leads first front other) : Takes first (front ++ back) other front back other where
  keeps := by
    rw [List.append_assoc]
    exact Keeps.refl _
  rises := (rises_append_iff.mp rises).1
  leads item member := List.forall_mem_append.mpr
    ⟨(rises_append_iff.mp rises).2.2 item member, leads item member⟩
  keptSuffix := List.suffix_append _ _
  otherSuffix := List.suffix_refl _

/-- Items of the other side are taken that go before the kept side. -/
theorem ofOther {front back : List α} (rises : Rises first (front ++ back))
    (leads : Leads first front kept) (goes : Precedes first front kept) :
    Takes first kept (front ++ back) front kept back where
  keeps := by
    rw [← List.append_assoc, ← List.append_assoc]
    exact (Keeps.swap goes).append_right back
  rises := (rises_append_iff.mp rises).1
  leads item member := List.forall_mem_append.mpr
    ⟨leads item member, (rises_append_iff.mp rises).2.2 item member⟩
  keptSuffix := List.suffix_refl _
  otherSuffix := List.suffix_append _ _

/-- Items that lead the rest are followed by items that lead what is then left. -/
theorem rises_append (takes : Takes first kept other taken keptRest otherRest) {items : List α}
    (rises : Rises first items) (inside : items ⊆ keptRest ++ otherRest) :
      Rises first (taken ++ items) :=
  rises_append_iff.mpr ⟨takes.rises, rises, fun item member one within =>
    takes.leads item member one (inside within)⟩

theorem trans {more keptLast otherLast : List α}
    (takes : Takes first kept other taken keptRest otherRest)
    (next : Takes first keptRest otherRest more keptLast otherLast) :
    Takes first kept other (taken ++ more) keptLast otherLast where
  keeps := by
    rw [List.append_assoc]
    exact (next.keeps.append_left taken).trans takes.keeps
  rises := takes.rises_append next.rises fun _ member =>
    next.keeps.perm.subset (List.mem_append_left _ member)
  leads := List.forall_mem_append.mpr ⟨fun item member one within =>
    takes.leads item member one (next.keeps.perm.subset (List.mem_append_right _ within)),
      next.leads⟩
  keptSuffix := next.keptSuffix.trans takes.keptSuffix
  otherSuffix := next.otherSuffix.trans takes.otherSuffix

/-- What is left can be merged on. -/
theorem ready (takes : Takes first kept other taken keptRest otherRest)
    (ready : Ready first among kept other) : Ready first among keptRest otherRest where
  keptAmong item member := ready.keptAmong item (takes.keptSuffix.subset member)
  otherAmong item member := ready.otherAmong item (takes.otherSuffix.subset member)
  keptRises := ready.keptRises.sublist takes.keptSuffix.sublist
  otherRises := ready.otherRises.sublist takes.otherSuffix.sublist
  last := by
    intro last final item member
    obtain ⟨gone, rfl⟩ := takes.keptSuffix
    refine ready.last last ?_ item (takes.otherSuffix.subset member)
    rw [List.getLast?_append, Option.mem_def.mp final, Option.some_or]
    exact rfl

end Takes

/-- Both sides have an item to compare, the kept one at least two, where nothing is settled. -/
theorem exists_cons_of_settled?_eq_none {kept other : List α}
    (unsettled : settled? kept other = none) :
    ∃ keptFirst keptRest otherFirst otherRest, kept = keptFirst :: keptRest ∧
      other = otherFirst :: otherRest := by
  cases kept with
  | nil => cases other <;> contradiction
  | cons keptFirst keptRest =>
      cases other with
      | nil => contradiction
      | cons otherFirst otherRest => exact ⟨_, _, _, _, rfl, rfl⟩

/-- What is settled is in order. -/
theorem keeps_and_rises_of_settled? (ranks : Ranks first among) {kept other rest : List α}
    (ready : Ready first among kept other) (settled : settled? kept other = some rest) :
    Keeps first rest (kept ++ other) ∧ Rises first rest := by
  unfold settled? at settled
  split at settled
  · obtain rfl := Option.some.inj settled
    rw [List.append_nil]
    exact ⟨Keeps.refl _, ready.keptRises⟩
  · obtain rfl := Option.some.inj settled
    exact ⟨Keeps.refl _, ready.otherRises⟩
  · obtain rfl := Option.some.inj settled
    exact ⟨Keeps.swap (ready.last _ rfl), rises_append_iff.mpr ⟨ready.otherRises,
      List.pairwise_singleton _ _,
      ranks.leads_of_precedes ready.otherAmong ready.keptAmong (ready.last _ rfl)⟩⟩
  · contradiction

namespace Merging

@[simp] theorem kept_afterStretch (merging : Merging α) (second long : Bool) (length : Nat) :
    (merging.afterStretch second long length).kept = merging.kept := by
  unfold afterStretch
  split
  · rfl
  · dsimp only
    split <;> rfl

@[simp] theorem other_afterStretch (merging : Merging α) (second long : Bool) (length : Nat) :
    (merging.afterStretch second long length).other = merging.other := by
  unfold afterStretch
  split
  · rfl
  · dsimp only
    split <;> rfl

variable {below? : α → α → Option Bool}

theorem otherWins?_eq (compares : Compares below? before among) (upward : Bool) {kept other : α}
    (keptAmong : among kept) (otherAmong : among other) :
    otherWins? below? upward kept other = some (directed before upward other kept) := by
  cases upward with
  | true => exact compares.tells otherAmong keptAmong
  | false => exact compares.tells keptAmong otherAmong

/-- The outcome of a step that takes at least one item. -/
def Advances (first : α → α → Bool) (merging : Merging α) (outcome : Option (List α × Merging α)) :
    Prop :=
  ∃ taken after, outcome = some (taken, after) ∧ taken ≠ [] ∧
    Takes first merging.kept merging.other taken after.kept after.other

section Step

variable (compares : Compares below? before among) (upward : Bool) {kept other : List α}
  {keptFirst otherFirst : α}
  (ready : Ready (directed before upward) among (keptFirst :: kept) (otherFirst :: other))

include compares ready

/-- Items of the kept side that the first of the other does not go before lead the other side. -/
theorem leads_other {front : List α} (inside : front ⊆ keptFirst :: kept)
    (stays : ∀ item ∈ front, directed before upward otherFirst item = false) :
    Leads (directed before upward) front (otherFirst :: other) := by
  have ranks := compares.directed upward
  have own := ready.otherAmong otherFirst List.mem_cons_self
  intro item member one within
  exact ranks.trans (ready.keptAmong item (inside member)) own (ready.otherAmong one within)
    (stays item member) (ranks.before_head_eq_false own ready.otherRises one within)

/-- Items of the other side that go before the first of the kept side are taken before the kept
side. -/
theorem takes_front {front back : List α} (whole : otherFirst :: other = front ++ back)
    (goes : ∀ item ∈ front, directed before upward item keptFirst = true) :
    Takes (directed before upward) (keptFirst :: kept)
    (otherFirst :: other) front (keptFirst :: kept)
      back := by
  have ranks := compares.directed upward
  have own := ready.keptAmong keptFirst List.mem_cons_self
  have inside : ∀ item ∈ front, among item := fun item member =>
    ready.otherAmong item (whole ▸ List.mem_append_left back member)
  have precedes : Precedes (directed before upward) front (keptFirst :: kept) :=
    fun item member one within =>
      ranks.before_of_before (inside item member) own (ready.keptAmong one within)
        (goes item member)
        (ranks.before_head_eq_false own ready.keptRises one within)
  have rises := ready.otherRises
  rw [whole] at rises ⊢
  exact Takes.ofOther rises (ranks.leads_of_precedes inside ready.keptAmong precedes) precedes

theorem takes_other (goes : directed before upward otherFirst keptFirst = true) :
    Takes (directed before upward) (keptFirst :: kept) (otherFirst :: other) [otherFirst]
      (keptFirst :: kept) other :=
  takes_front compares upward ready (List.singleton_append).symm
    (List.forall_mem_singleton.mpr goes)

theorem takes_kept (stays : directed before upward otherFirst keptFirst = false) :
    Takes (directed before upward) (keptFirst :: kept) (otherFirst :: other) [keptFirst] kept
      (otherFirst :: other) :=
  Takes.ofKept ready.keptRises
    (leads_other compares upward ready (by simp) (List.forall_mem_singleton.mpr stays))

/-- A stretch of the kept side goes up to the first item that the first of the other side goes
before. -/
theorem exists_keptStretch :
    ∃ front back, keptFirst :: kept = front ++ back ∧
      leading (!upward) (fun item => do return !(← otherWins? below? upward item otherFirst))
        (keptFirst :: kept) = some front.length ∧
      Takes (directed before upward) (keptFirst :: kept) (otherFirst :: other) front back
        (otherFirst :: other) ∧
      ∀ item ∈ back, directed before upward otherFirst item = true := by
  have own := ready.otherAmong otherFirst List.mem_cons_self
  have tests : ∀ item ∈ keptFirst :: kept, (do
      return !(← otherWins? below? upward item otherFirst)) =
        some (!directed before upward otherFirst item) := fun item member => by
    rw [otherWins?_eq compares upward (ready.keptAmong item member) own]
    rfl
  obtain ⟨front, back, whole, found, passing, failing⟩ := exists_leading (!upward) tests
    ((compares.directed upward).apart_not_before ready.keptAmong own ready.keptRises)
  simp only [Bool.not_eq_true', Bool.not_eq_false'] at passing failing
  have leads :=
    leads_other compares upward ready (whole ▸ List.subset_append_left front back) passing
  refine ⟨front, back, whole, found, ?_, failing⟩
  have rises := ready.keptRises
  rw [whole] at rises ⊢
  exact Takes.ofKept rises leads

/-- A stretch of the other side goes up to the first item that does not go before the first of the
kept side. -/
theorem exists_otherStretch :
    ∃ front back, otherFirst :: other = front ++ back ∧
      leading (!upward) (otherWins? below? upward keptFirst)
      (otherFirst :: other) = some front.length ∧
      Takes (directed before upward) (keptFirst :: kept)
      (otherFirst :: other) front (keptFirst :: kept)
        back ∧
      ∀ item ∈ back, directed before upward item keptFirst = false := by
  have own := ready.keptAmong keptFirst List.mem_cons_self
  obtain ⟨front, back, whole, found, passing, failing⟩ := exists_leading (!upward)
    (fun item member => otherWins?_eq compares upward own (ready.otherAmong item member))
    ((compares.directed upward).apart_before ready.otherAmong own ready.otherRises)
  exact ⟨front, back, whole, found, takes_front compares upward ready whole passing, failing⟩

theorem advances_takeStretch (unsettled : settled? (keptFirst :: kept) (otherFirst :: other) = none)
    (second long : Bool) (pace : Pace) (patience nextPatience : Nat) :
    Advances (directed before upward)
      ⟨keptFirst :: kept, otherFirst :: other, pace, patience, nextPatience⟩
      (takeStretch below? upward second long
        ⟨keptFirst :: kept, otherFirst :: other, pace, patience,
          nextPatience⟩ keptFirst otherFirst) := by
  unfold takeStretch
  split
  · obtain ⟨front, back, whole, found, takes, goes⟩ := exists_keptStretch compares upward ready
    rw [found, Option.bind_eq_bind, Option.bind_some]
    dsimp only
    rw [whole, List.take_left, List.drop_left, ← whole]
    split
    · next settled =>
      refine ⟨front, _, rfl, ?_, takes⟩
      rintro rfl
      rw [List.nil_append] at whole
      rw [← whole, unsettled] at settled
      contradiction
    · next unsettledRest =>
      obtain ⟨keptNext, keptLast, -, -, rfl, -⟩ :=
        exists_cons_of_settled?_eq_none (Option.not_isSome_iff_eq_none.mp unsettledRest)
      refine ⟨front ++ [otherFirst], _, rfl, by simp, takes.trans ?_⟩
      rw [kept_afterStretch, other_afterStretch]
      exact takes_other compares upward (takes.ready ready) (goes keptNext List.mem_cons_self)
  · obtain ⟨front, back, whole, found, takes, stays⟩ := exists_otherStretch compares upward ready
    rw [found, Option.bind_eq_bind, Option.bind_some]
    dsimp only
    rw [whole, List.take_left, List.drop_left, ← whole]
    split
    · next settled =>
      refine ⟨front, _, rfl, ?_, takes⟩
      rintro rfl
      rw [List.nil_append] at whole
      rw [← whole, unsettled] at settled
      contradiction
    · next unsettledRest =>
      obtain ⟨-, -, otherNext, otherLast, -, rfl⟩ :=
        exists_cons_of_settled?_eq_none (Option.not_isSome_iff_eq_none.mp unsettledRest)
      refine ⟨front ++ [keptFirst], _, rfl, by simp, takes.trans ?_⟩
      rw [kept_afterStretch, other_afterStretch]
      exact takes_kept compares upward (takes.ready ready) (stays otherNext List.mem_cons_self)

end Step

section Run

variable (compares : Compares below? before among) (upward : Bool)

include compares

/-- A step takes items that lead what it leaves of both sides. -/
theorem advances_step {merging : Merging α}
    (ready : Ready (directed before upward) among merging.kept merging.other)
    (unsettled : settled? merging.kept merging.other = none) :
    Advances (directed before upward) merging (merging.step below? upward) := by
  obtain ⟨kept, other, pace, patience, nextPatience⟩ := merging
  obtain ⟨keptFirst, keptRest, otherFirst, otherRest, rfl, rfl⟩ :=
    exists_cons_of_settled?_eq_none unsettled
  unfold step
  cases pace with
  | single keptWins otherWins =>
      have ownKept := ready.keptAmong keptFirst List.mem_cons_self
      have ownOther := ready.otherAmong otherFirst List.mem_cons_self
      dsimp only
      rw [otherWins?_eq compares upward ownKept ownOther, Option.bind_eq_bind, Option.bind_some]
      cases goes : directed before upward otherFirst keptFirst with
      | true => exact ⟨[otherFirst], _, rfl, by simp, takes_other compares upward ready goes⟩
      | false => exact ⟨[keptFirst], _, rfl, by simp, takes_kept compares upward ready goes⟩
  | stretch second long =>
      exact advances_takeStretch compares upward ready unsettled second long _ _ _

/-- Merging goes on until nothing is left, and what it takes is in order. -/
theorem exists_run {fuel : Nat} {merging : Merging α}
    (ready : Ready (directed before upward) among merging.kept merging.other)
    (enough : merging.kept.length + merging.other.length < fuel) :
    ∃ merged patience, run below? upward fuel merging = some (merged, patience) ∧
      Keeps (directed before upward) merged (merging.kept ++ merging.other) ∧
      Rises (directed before upward) merged := by
  induction fuel generalizing merging with
  | zero => exact absurd enough (Nat.not_lt_zero _)
  | succ fuel induction =>
      unfold run
      split
      · next rest settled =>
        exact ⟨rest, _, rfl, keeps_and_rises_of_settled? (compares.directed upward) ready settled⟩
      · next unsettled =>
        obtain ⟨taken, after, stepped, something, takes⟩ :=
          advances_step compares upward ready unsettled
        have fewer : after.kept.length + after.other.length < fuel := by
          have total := takes.keeps.perm.length_eq
          have positive := List.length_pos_iff.mpr something
          simp only [List.length_append] at total
          omega
        obtain ⟨rest, patience, done, keeps, rises⟩ := induction (takes.ready ready) fewer
        refine ⟨taken ++ rest, patience, ?_, (keeps.append_left taken).trans takes.keeps,
          takes.rises_append rises keeps.perm.subset⟩
        rw [stepped, Option.bind_eq_bind, Option.bind_some]
        dsimp only
        rw [done]
        rfl

end Run

end Merging

/-! ## Merges -/

/-- Steps of sorting give a result with some property, whatever number of wins is remembered. -/
def Yields {β : Type} (work : Paced β) (holds : β → Prop) : Prop :=
  ∀ patience, ∃ made next, work patience = some (made, next) ∧ holds made

namespace Yields

variable {β γ : Type} {holds : β → Prop} {outcome : γ → Prop}

theorem pure {made : β} (done : holds made) : Yields (Pure.pure made) holds :=
  fun patience => ⟨made, patience, rfl, done⟩

theorem bind {work : Paced β} {next : β → Paced γ} (first : Yields work holds)
    (rest : ∀ made, holds made → Yields (next made) outcome) : Yields (work >>= next) outcome := by
  intro patience
  obtain ⟨made, patient, worked, done⟩ := first patience
  obtain ⟨last, final, finished, done⟩ := rest made done patient
  refine ⟨last, final, ?_, done⟩
  change (work patience >>= fun reached => next reached.1 reached.2) = _
  rw [worked]
  exact finished

theorem imp {weaker : β → Prop} {work : Paced β} (yields : Yields work holds)
    (weaken : ∀ made, holds made → weaker made) : Yields work weaker := by
  intro patience
  obtain ⟨made, next, worked, done⟩ := yields patience
  exact ⟨made, next, worked, weaken made done⟩

/-- What does not depend on the number of wins goes first. -/
theorem lift_bind {found : Option β} {made : β} {next : β → Paced γ} (known : found = some made)
    (rest : Yields (next made) outcome) : Yields (liftM found >>= next) outcome := by
  have first : Yields (liftM found) (· = made) :=
    fun patience => ⟨made, patience, by rw [known]; rfl, rfl⟩
  refine first.bind ?_
  rintro _ rfl
  exact rest

end Yields

variable {below? : α → α → Option Bool} (compares : Compares below? before among)

include compares

theorem Merging.yields_sides (upward : Bool) {kept other : List α}
    (ready : Ready (directed before upward) among kept other) :
    Yields (sides below? upward kept other) fun merged =>
      Keeps (directed before upward) merged (kept ++ other) ∧
        Rises (directed before upward) merged :=
  fun _ => exists_run compares upward ready (Nat.lt_succ_self _)

omit compares in
/-- Two rising runs that lie beside each other as a whole: the first item of the right one goes
before all of the left, and the last of the left one behind all of the right. -/
structure Overlaps (before : α → α → Bool) (among : α → Prop) (left : List α) (last first : α)
    (right : List α) : Prop where
  leftAmong : ∀ item ∈ left ++ [last], among item
  rightAmong : ∀ item ∈ first :: right, among item
  leftRises : Rises before (left ++ [last])
  rightRises : Rises before (first :: right)
  above : ∀ item ∈ left ++ [last], before first item = true
  below : ∀ item ∈ first :: right, before item last = true

namespace Overlaps

variable {left right : List α} {first last : α}

/-- Going up, the first item of the right run goes first, and the left run lies apart. -/
theorem yields_upward (overlaps : Overlaps before among left last first right) :
    Yields (do return [first] ++ (← Merging.sides below? true (left ++ [last]) right)) fun merged =>
      Keeps before merged (left ++ [last] ++ first :: right) ∧ Rises before merged := by
  have own := overlaps.rightAmong first List.mem_cons_self
  have leads : ∀ item ∈ left ++ [last], before item first = false := fun item member =>
    compares.asymm own (overlaps.leftAmong item member) (overlaps.above item member)
  obtain ⟨leadsRight, risesRight⟩ := List.pairwise_cons.mp overlaps.rightRises
  have ready : Ready (directed before true) among (left ++ [last]) right := {
    keptAmong := overlaps.leftAmong
    otherAmong := (List.forall_mem_cons.mp overlaps.rightAmong).2
    keptRises := overlaps.leftRises
    otherRises := risesRight
    last := by
      intro final known item member
      rw [List.getLast?_concat, Option.mem_some_iff] at known
      rw [← known]
      exact List.forall_mem_singleton.mpr (overlaps.below item (List.mem_cons_of_mem _ member)) }
  refine (Merging.yields_sides compares true ready).bind fun merged done => Yields.pure ?_
  obtain ⟨keeps, rises⟩ := done
  have moved :
      Keeps before ([first] ++ (left ++ [last]) ++ right) (left ++ [last] ++ [first] ++ right) :=
    (Keeps.swap (List.forall_mem_singleton.mpr overlaps.above)).append_right right
  rw [List.append_assoc, List.append_assoc (left ++ [last])] at moved
  refine ⟨(keeps.append_left [first]).trans moved, List.pairwise_cons.mpr ⟨?_, rises⟩⟩
  intro item member
  obtain inside | inside := List.mem_append.mp (keeps.perm.subset member)
  · exact leads item inside
  · exact leadsRight item inside

/-- Going down, the last item of the left run goes first, and the right run lies apart. -/
theorem yields_downward (overlaps : Overlaps before among left last first right) :
    Yields (do
      let rest ← Merging.sides below? false (first :: right).reverse left.reverse
      return ([last] ++ rest).reverse) fun merged =>
      Keeps before merged (left ++ [last] ++ first :: right) ∧ Rises before merged := by
  have own := overlaps.leftAmong last (List.mem_append_right _ List.mem_cons_self)
  have leads : ∀ item ∈ first :: right, before last item = false := fun item member =>
    compares.asymm (overlaps.rightAmong item member) own (overlaps.below item member)
  obtain ⟨risesLeft, -, leadsLeft⟩ := rises_append_iff.mp overlaps.leftRises
  have ready : Ready (directed before false) among (first :: right).reverse left.reverse := {
    keptAmong := fun item member => overlaps.rightAmong item (List.mem_reverse.mp member)
    otherAmong := fun item member =>
      overlaps.leftAmong item (List.mem_append_left _ (List.mem_reverse.mp member))
    keptRises := List.pairwise_reverse.mpr overlaps.rightRises
    otherRises := List.pairwise_reverse.mpr risesLeft
    last := by
      intro final known item member
      rw [List.getLast?_reverse, List.head?_cons, Option.mem_some_iff] at known
      rw [← known]
      exact List.forall_mem_singleton.mpr
        (overlaps.above item (List.mem_append_left _ (List.mem_reverse.mp member))) }
  refine (Merging.yields_sides compares false ready).bind fun merged done => Yields.pure ?_
  obtain ⟨keeps, rises⟩ := done
  rw [← List.reverse_append] at keeps
  refine ⟨?_, List.pairwise_reverse.mpr (List.pairwise_cons.mpr ⟨?_, rises⟩)⟩
  · have turned : Keeps before merged.reverse (left ++ first :: right) :=
      List.reverse_reverse (left ++ first :: right) ▸ (Keeps.flip keeps).reverse
    have moved :
        Keeps before (left ++ (first :: right ++ [last])) (left ++ ([last] ++ first :: right)) :=
      (Keeps.swap fun item member =>
        List.forall_mem_singleton.mpr (overlaps.below item member)).append_left left
    rw [← List.append_assoc, ← List.append_assoc] at moved
    rw [List.singleton_append, List.reverse_cons]
    exact (turned.append_right [last]).trans moved
  · intro item member
    obtain inside | inside := List.mem_append.mp (List.mem_reverse.mp (keeps.perm.subset member))
    · exact leadsLeft item inside last List.mem_cons_self
    · exact leads item inside

/-- Runs that overlap merge into one that rises. -/
theorem yields_mergeOverlap (overlaps : Overlaps before among left last first right) :
    Yields (mergeOverlap below? (left ++ [last]) (first :: right)) fun merged =>
      Keeps before merged (left ++ [last] ++ first :: right) ∧ Rises before merged := by
  unfold mergeOverlap
  split
  · exact overlaps.yields_upward compares
  · rw [List.reverse_concat]
    exact overlaps.yields_downward compares

end Overlaps

omit compares in
/-- A merged middle stays between what leads it and what it leads. -/
theorem rises_overlap {outerLeft innerLeft innerRight outerRight merged : List α}
    (risesLeft : Rises before (outerLeft ++ innerLeft))
    (risesRight : Rises before (innerRight ++ outerRight))
    (leads : Leads before outerLeft (innerRight ++ outerRight))
    (follows : Leads before innerLeft outerRight) (rises : Rises before merged)
    (perm : merged.Perm (innerLeft ++ innerRight)) :
    Rises before (outerLeft ++ merged ++ outerRight) := by
  obtain ⟨risesOuterLeft, -, leadsLeft⟩ := rises_append_iff.mp risesLeft
  obtain ⟨-, risesOuterRight, leadsRight⟩ := rises_append_iff.mp risesRight
  refine rises_append_iff.mpr ⟨rises_append_iff.mpr ⟨risesOuterLeft, rises, ?_⟩,
    risesOuterRight, ?_⟩
  · intro item member other within
    obtain inside | inside := List.mem_append.mp (perm.subset within)
    · exact leadsLeft item member other inside
    · exact leads item member other (List.mem_append_left _ inside)
  · intro item member other within
    obtain outer | inner := List.mem_append.mp member
    · exact leads item outer other (List.mem_append_right _ within)
    · obtain inside | inside := List.mem_append.mp (perm.subset inner)
      · exact follows item inside other within
      · exact leadsRight item inside other within

/-- The items of a run that are not above another item are found at its front. -/
theorem exists_notAbove {items : List α} (all : ∀ item ∈ items, among item)
    (rises : Rises before items) {bound : α} (own : among bound) :
    ∃ outer inner, items = outer ++ inner ∧
      leading false (fun item => do return !(← below? bound item)) items = some outer.length ∧
      (∀ item ∈ outer, before bound item = false) ∧ ∀ item ∈ inner, before bound item = true := by
  have tests : ∀ item ∈ items, (do return !(← below? bound item)) = some (!before bound item) :=
    fun item member => by
      rw [compares.tells own (all item member)]
      rfl
  obtain ⟨outer, inner, whole, found, passing, failing⟩ :=
    exists_leading false tests (compares.apart_not_before all own rises)
  simp only [Bool.not_eq_true', Bool.not_eq_false'] at passing failing
  exact ⟨outer, inner, whole, found, passing, failing⟩

/-- The items of a run that are not below another item are found at its end. -/
theorem exists_notBelow {items : List α} (all : ∀ item ∈ items, among item)
    (rises : Rises before items) {bound : α} (own : among bound) :
    ∃ inner outer, items = inner ++ outer ∧
      leading true (fun item => do return !(← below? item bound)) items.reverse =
        some outer.length ∧
      (∀ item ∈ inner, before item bound = true) ∧ ∀ item ∈ outer, before item bound = false := by
  have tests : ∀ item ∈ items.reverse, (do return !(← below? item bound)) =
    some (!before item bound) :=
    fun item member => by
      rw [compares.tells (all item (List.mem_reverse.mp member)) own]
      rfl
  obtain ⟨outer, inner, whole, found, passing, failing⟩ := exists_leading true tests
    (compares.flip.apart_not_before (fun item member => all item (List.mem_reverse.mp member)) own
      (List.pairwise_reverse.mpr rises))
  simp only [Bool.not_eq_true', Bool.not_eq_false'] at passing failing
  refine ⟨inner.reverse, outer.reverse, ?_, ?_, ?_, ?_⟩
  · rw [← List.reverse_append, ← whole, List.reverse_reverse]
  · rw [found, List.length_reverse]
  · exact fun item member => failing item (List.mem_reverse.mp member)
  · exact fun item member => passing item (List.mem_reverse.mp member)

/-- What of two runs does not lie beside each other is found by searching each for the end of the
other. -/
theorem exists_overlap {left right : List α} {first last : α}
    (allLeft : ∀ item ∈ left ++ [last], among item) (allRight : ∀ item ∈ first :: right, among item)
    (risesLeft : Rises before (left ++ [last])) (risesRight : Rises before (first :: right)) :
    ∃ outerLeft innerLeft innerRight outerRight, left ++ [last] = outerLeft ++ innerLeft ∧
      first :: right = innerRight ++ outerRight ∧
      leading false (fun item => do return !(← below? first item)) (left ++ [last]) =
        some outerLeft.length ∧
      leading true (fun item => do return !(← below? item last)) (first :: right).reverse =
        some outerRight.length ∧
      Leads before outerLeft (first :: right) ∧ Leads before (left ++ [last]) outerRight ∧
      (∀ item ∈ innerLeft, before first item = true) ∧ ∀ item ∈ innerRight,
        before item last = true := by
  have ownFirst := allRight first List.mem_cons_self
  have ownLast := allLeft last (List.mem_append_right _ List.mem_cons_self)
  obtain ⟨outerLeft, innerLeft, wholeLeft, foundLeft, notAbove, above⟩ :=
    exists_notAbove compares allLeft risesLeft ownFirst
  obtain ⟨innerRight, outerRight, wholeRight, foundRight, below, notBelow⟩ :=
    exists_notBelow compares allRight risesRight ownLast
  refine ⟨outerLeft, innerLeft, innerRight, outerRight, wholeLeft, wholeRight,
    foundLeft, foundRight, ?_, ?_, above, below⟩
  · intro item member other within
    exact compares.trans (allLeft item (wholeLeft ▸ List.mem_append_left _ member)) ownFirst
      (allRight other within) (notAbove item member)
      (compares.before_head_eq_false ownFirst risesRight other within)
  · intro item member other within
    exact compares.trans (allLeft item member) ownLast
      (allRight other (wholeRight ▸ List.mem_append_right _ within))
      (compares.last_before_eq_false ownLast risesLeft item member) (notBelow other within)

/-- Two rising runs merge into one that rises. -/
theorem yields_mergeRuns {left right : List α} (allLeft : ∀ item ∈ left, among item)
    (allRight : ∀ item ∈ right, among item) (risesLeft : Rises before left)
    (risesRight : Rises before right) :
    Yields (mergeRuns below? left right) fun merged =>
      Keeps before merged (left ++ right) ∧ Rises before merged := by
  cases right with
  | nil => exact Yields.pure ⟨Keeps.refl _, (List.append_nil left).symm ▸ risesLeft⟩
  | cons first right =>
  obtain rfl | ⟨left, last, rfl⟩ := List.eq_nil_or_concat' left
  · exact Yields.pure ⟨Keeps.refl _, risesRight⟩
  obtain ⟨outerLeft, innerLeft, innerRight, outerRight, wholeLeft, wholeRight,
    foundLeft, foundRight,
    leads, follows, above, below⟩ := exists_overlap compares allLeft allRight risesLeft risesRight
  unfold mergeRuns
  rw [List.getLast?_concat]
  refine Yields.lift_bind foundLeft ?_
  rw [wholeLeft, List.length_append]
  split
  case isFalse none =>
    -- The whole left run stays in front, and nothing is merged.
    have whole : innerLeft = [] := List.length_eq_zero_iff.mp (by omega)
    rw [whole, List.append_nil] at wholeLeft ⊢
    rw [pure_bind]
    dsimp only
    rw [Nat.sub_self, if_pos rfl, ← wholeLeft]
    exact Yields.pure ⟨Keeps.refl _,
      rises_append_iff.mpr ⟨risesLeft, risesRight, wholeLeft ▸ leads⟩⟩
  case isTrue more =>
    refine Yields.lift_bind foundRight ?_
    dsimp only
    rw [wholeRight, List.length_append, Nat.add_sub_cancel, List.take_left, List.take_left,
      List.drop_left, List.drop_left]
    split
    case isTrue empty =>
      -- The whole right run stays behind.
      have whole : innerRight = [] := List.length_eq_zero_iff.mp empty
      rw [whole, List.nil_append] at wholeRight ⊢
      rw [← wholeLeft, ← wholeRight]
      exact Yields.pure ⟨Keeps.refl _, rises_append_iff.mpr ⟨risesLeft, risesRight,
        wholeRight ▸ follows⟩⟩
    case isFalse something =>
      obtain ⟨head, innerRight, rfl⟩ :=
        List.exists_cons_of_length_pos (Nat.pos_of_ne_zero something)
      obtain rfl | ⟨innerLeft, final, rfl⟩ := List.eq_nil_or_concat' innerLeft
      · exact absurd more (Nat.lt_irrefl _)
      obtain rfl := (List.cons.inj wholeRight).1
      obtain rfl : last = final := by
        rw [← List.append_assoc] at wholeLeft
        exact List.singleton_inj.mp (List.append_inj_right' wholeLeft rfl)
      rw [wholeLeft] at allLeft risesLeft follows
      rw [wholeRight] at allRight risesRight leads
      have overlaps : Overlaps before among innerLeft last first innerRight := {
        leftAmong := fun item member => allLeft item (List.mem_append_right _ member)
        rightAmong := fun item member => allRight item (List.mem_append_left _ member)
        leftRises := (rises_append_iff.mp risesLeft).2.1
        rightRises := (rises_append_iff.mp risesRight).1
        above := above
        below := below }
      refine (overlaps.yields_mergeOverlap compares).bind fun merged done => Yields.pure ⟨?_, ?_⟩
      · have keeps := (done.1.append_left outerLeft).append_right outerRight
        simpa only [List.append_assoc] using keeps
      · exact rises_overlap risesLeft risesRight leads
          (fun item member => follows item (List.mem_append_right _ member)) done.2 done.1.perm

end ApiCompiler.Sorting
