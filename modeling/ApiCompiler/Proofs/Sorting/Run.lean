import ApiCompiler.Proofs.Sorting.Merge
import ApiCompiler.Sorting.Run

/-!
# Sorting by runs

What sorting makes of a list whose items a comparison ranks: the same items, none of which goes
before one in front of it, and those of which none goes before another in the order in which they
were. Runs that are found rise, runs that are merged rise, and items only move in front of such as
they go before.
-/

namespace ApiCompiler.Sorting

variable {α : Type} {below? : α → α → Option Bool} {before : α → α → Bool} {among : α → Prop}

/-- A run is cut off a list: it rises, and with the rest it has the items of the list. -/
structure CutsOff (before : α → α → Bool) (items run rest : List α) : Prop where
  keeps : Keeps before (run ++ rest) items
  rises : Rises before run

/-- An item behind which the first of some rising items does not go may stand in front of all of
them. -/
theorem Ranks.rises_cons (ranks : Ranks before among) {next first : α} {items : List α}
    (own : among next) (all : ∀ item ∈ first :: items, among item)
    (ordered : before first next = false) (rises : Rises before (first :: items)) :
    Rises before (next :: first :: items) := by
  have ownFirst := all first List.mem_cons_self
  refine List.pairwise_cons.mpr ⟨fun item member => ?_, rises⟩
  exact ranks.trans own ownFirst (all item member) ordered
    (ranks.before_head_eq_false ownFirst rises item member)

/-- A list is divided into runs that rise, the last one first. -/
structure Divides (before : α → α → Bool) (runs : List (Run α)) (items : List α) : Prop where
  keeps : Keeps before (runs.reverse.flatMap (·.items)) items
  rises : ∀ run ∈ runs, Rises before run.items

namespace Divides

variable {runs : List (Run α)} {items : List α}

theorem among_of_mem (divides : Divides before runs items) (all : ∀ item ∈ items, among item)
    {run : Run α} (member : run ∈ runs) : ∀ item ∈ run.items, among item :=
  fun item inside => all item (divides.keeps.perm.subset
    (List.mem_flatMap.mpr ⟨run, List.mem_reverse.mpr member, inside⟩))

/-- A run stands for two others whose items it has. -/
theorem join {front : List (Run α)} {joined upper lower : Run α}
    (divides : Divides before (front ++ upper :: lower :: runs) items)
    (keeps : Keeps before joined.items (lower.items ++ upper.items))
    (rises : Rises before joined.items) :
    Divides before (front ++ joined :: runs) items where
  keeps := by
    refine Keeps.trans ?_ divides.keeps
    have middle := (keeps.append_left (runs.reverse.flatMap (·.items))).append_right
      (front.reverse.flatMap (·.items))
    simpa [List.flatMap_append] using middle
  rises := by
    have all := divides.rises
    simp only [List.forall_mem_append, List.forall_mem_cons] at all ⊢
    exact ⟨all.1, rises, all.2.2.2⟩

end Divides

variable (compares : Compares below? before among)

include compares

theorem exists_fallingRun {least : α} {others origin items : List α}
    (all : ∀ item ∈ origin ++ items, among item) (keeps : Keeps before (least :: others) origin)
    (rises : Rises before (least :: others)) :
    ∃ run rest, fallingRun below? least others items = some (run, rest) ∧ run ≠ [] ∧
      CutsOff before (origin ++ items) run rest := by
  induction items generalizing least others origin with
  | nil => exact ⟨least :: others, [], rfl, List.cons_ne_nil _ _, keeps.append_right [], rises⟩
  | cons next rest induction =>
      obtain ⟨allOrigin, allRest⟩ := List.forall_mem_append.mp all
      have allRun : ∀ item ∈ least :: others, among item :=
        fun item member => allOrigin item (keeps.perm.subset member)
      have own := allRest next List.mem_cons_self
      have ownLeast := allRun least List.mem_cons_self
      rw [fallingRun, compares.tells own ownLeast, Option.bind_eq_bind, Option.bind_some]
      cases falls : before next least with
      | true =>
          have goes : Precedes before [next] (least :: others) :=
            List.forall_mem_singleton.mpr fun item member =>
              compares.before_of_before own ownLeast (allRun item member) falls
                (compares.before_head_eq_false ownLeast rises item member)
          have moved : Keeps before (next :: least :: others) (origin ++ [next]) :=
            (Keeps.swap goes).trans (keeps.append_right [next])
          rw [List.append_cons] at all ⊢
          exact induction all moved
            (compares.rises_cons own allRun (compares.asymm own ownLeast falls) rises)
      | false => exact ⟨_, _, rfl, List.cons_ne_nil _ _, keeps.append_right _, rises⟩

theorem exists_risingRun {last : α} {earlier items : List α}
    (all : ∀ item ∈ (last :: earlier).reverse ++ items, among item)
    (rises : Rises (fun one other => before other one) (last :: earlier)) :
    ∃ run rest, risingRun below? last earlier items = some (run, rest) ∧ run ≠ [] ∧
      CutsOff before ((last :: earlier).reverse ++ items) run rest := by
  induction items generalizing last earlier with
  | nil =>
      exact ⟨(last :: earlier).reverse, [], rfl, by
        simp, Keeps.refl _, List.pairwise_reverse.mpr rises⟩
  | cons next rest induction =>
      obtain ⟨allRun, allRest⟩ := List.forall_mem_append.mp all
      have own := allRest next List.mem_cons_self
      have allBack : ∀ item ∈ last :: earlier, among item :=
        fun item member => allRun item (List.mem_reverse.mpr member)
      rw [risingRun, compares.tells own (allBack last List.mem_cons_self), Option.bind_eq_bind,
        Option.bind_some]
      cases falls : before next last with
      | true => exact ⟨_, _, rfl, by simp, Keeps.refl _, List.pairwise_reverse.mpr rises⟩
      | false =>
          rw [List.append_cons, ← List.reverse_cons] at all ⊢
          exact induction all (compares.flip.rises_cons own allBack falls rises)

theorem exists_firstRun {items : List α} (all : ∀ item ∈ items, among item)
    (something : items ≠ []) :
    ∃ run rest, firstRun below? items = some (run, rest) ∧ run ≠ [] ∧
      CutsOff before items run rest := by
  cases items with
  | nil => exact absurd rfl something
  | cons first items =>
      cases items with
      | nil =>
          exact ⟨[first], [], rfl, List.cons_ne_nil _ _, Keeps.refl _, List.pairwise_singleton _ _⟩
      | cons second rest =>
          have own := all first List.mem_cons_self
          have next := all second (List.mem_cons_of_mem _ List.mem_cons_self)
          rw [firstRun, compares.tells next own, Option.bind_eq_bind, Option.bind_some]
          cases falls : before second first with
          | true =>
              have swapped : Keeps before ([second] ++ [first]) ([first] ++ [second]) :=
                Keeps.swap (List.forall_mem_singleton.mpr (List.forall_mem_singleton.mpr falls))
              exact exists_fallingRun compares all swapped
                (List.pairwise_pair.mpr (compares.asymm next own falls))
          | false => exact exists_risingRun compares all (List.pairwise_pair.mpr falls)

/-- Items that are inserted one by one leave a run that rises. -/
theorem exists_foldlM_insertByHalving {run items : List α} (all : ∀ item ∈ run ++ items, among item)
    (rises : Rises before run) :
    ∃ made, items.foldlM (fun run item => insertByHalving below? item run) run = some made ∧
      Keeps before made (run ++ items) ∧ Rises before made := by
  induction items generalizing run with
  | nil => exact ⟨run, rfl, (List.append_nil run).symm ▸ Keeps.refl run, rises⟩
  | cons item items induction =>
      obtain ⟨allRun, allItems⟩ := List.forall_mem_append.mp all
      obtain ⟨next, inserted, keeps, risen⟩ :=
        exists_insertByHalving compares (allItems item List.mem_cons_self) allRun rises
      have moved : Keeps before (next ++ items) (run ++ item :: items) := by
        rw [List.append_cons]
        exact keeps.append_right items
      obtain ⟨made, folded, kept, done⟩ :=
        induction (fun item member => all item (moved.perm.subset member)) risen
      refine ⟨made, ?_, kept.trans moved, done⟩
      rw [List.foldlM_cons, inserted]
      exact folded

theorem exists_fullRun {items : List α} (all : ∀ item ∈ items, among item) (something : items ≠ [])
    (least : Nat) :
    ∃ run rest, fullRun below? least items = some (run, rest) ∧ run ≠ [] ∧
      CutsOff before items run rest := by
  obtain ⟨run, rest, found, nonempty, keeps, rises⟩ := exists_firstRun compares all something
  have split : Keeps before
      (run ++ rest.take (least - run.length) ++ rest.drop (least - run.length)) items := by
    rwa [List.append_assoc, List.take_append_drop]
  obtain ⟨made, folded, kept, done⟩ := exists_foldlM_insertByHalving compares
    (fun item member => all item (split.perm.subset (List.mem_append_left _ member))) rises
  refine ⟨made, _, ?_, ?_, (kept.append_right _).trans split, done⟩
  · rw [fullRun, found, Option.bind_eq_bind, Option.bind_some]
    dsimp only
    rw [folded]
    rfl
  · rintro rfl
    exact nonempty (List.append_eq_nil_iff.mp kept.perm.nil_eq.symm).1

theorem yields_joinRuns {lower upper : Run α} (allLower : ∀ item ∈ lower.items, among item)
    (allUpper : ∀ item ∈ upper.items, among item) (risesLower : Rises before lower.items)
    (risesUpper : Rises before upper.items) :
    Yields (joinRuns below? lower upper) fun joined =>
      Keeps before joined.items (lower.items ++ upper.items) ∧ Rises before joined.items :=
  (yields_mergeRuns compares allLower allUpper risesLower risesUpper).bind fun _ done =>
    Yields.pure done

/-- Two neighbouring runs are joined into one. -/
theorem yields_joinRuns_divides {items : List α} (all : ∀ item ∈ items, among item)
    (front : List (Run α)) {runs : List (Run α)} {upper lower : Run α}
    (divides : Divides before (front ++ upper :: lower :: runs) items) :
    Yields (joinRuns below? lower upper) fun joined =>
      Divides before (front ++ joined :: runs) items := by
  have ofUpper : upper ∈ front ++ upper :: lower :: runs := by simp
  have ofLower : lower ∈ front ++ upper :: lower :: runs := by simp
  intro patience
  obtain ⟨joined, next, done, keeps, rises⟩ := yields_joinRuns compares
    (divides.among_of_mem all ofLower) (divides.among_of_mem all ofUpper)
      (divides.rises lower ofLower)
    (divides.rises upper ofUpper) patience
  exact ⟨joined, next, done, divides.join keeps rises⟩

theorem yields_mergeDeeper {items : List α} (all : ∀ item ∈ items, among item) (depth : Nat)
    {runs : List (Run α)} (divides : Divides before runs items) (something : runs ≠ []) :
    Yields (mergeDeeper below? depth runs) fun made => Divides before made items ∧ made ≠ [] := by
  induction length : runs.length generalizing runs with
  | zero => exact absurd (List.length_eq_zero_iff.mp length) something
  | succ length induction =>
      match runs with
      | [run] =>
          rw [mergeDeeper]
          · exact Yields.pure ⟨divides, something⟩
          · simp
      | upper :: lower :: runs =>
          rw [mergeDeeper]
          split
          · refine (yields_joinRuns_divides compares all [] divides).bind fun joined done => ?_
            exact induction done (List.cons_ne_nil _ _) (Nat.succ.inj length)
          · exact Yields.pure ⟨divides, something⟩

theorem yields_addRun {items run : List α} (all : ∀ item ∈ items, among item)
    (rises : Rises before run)
    (total start : Nat) {runs : List (Run α)} (divides : Divides before runs items) :
    Yields (addRun below? total runs run start) fun made => Divides before made (items ++ run) := by
  cases runs with
  | nil =>
      have none : items = [] := divides.keeps.perm.nil_eq.symm
      refine Yields.pure ⟨?_, List.forall_mem_singleton.mpr rises⟩
      rw [none, List.reverse_singleton, List.flatMap_singleton]
      exact Keeps.refl _
  | cons last runs =>
      refine (yields_mergeDeeper compares all (borderDepth total last run.length) divides
        (List.cons_ne_nil _ _)).bind fun made done => ?_
      obtain ⟨merged, something⟩ := done
      obtain ⟨next, others, rfl⟩ := List.exists_cons_of_ne_nil something
      have keeps := merged.keeps.append_right run
      refine Yields.pure ⟨?_, List.forall_mem_cons.mpr ⟨rises,
        List.forall_mem_cons.mpr (List.forall_mem_cons.mp merged.rises)⟩⟩
      simpa [List.flatMap_append] using keeps

theorem yields_mergeAll {items : List α} (all : ∀ item ∈ items, among item) {runs : List (Run α)}
    (divides : Divides before runs items) :
    Yields (mergeAll below? runs) fun merged => Keeps before merged items ∧
      Rises before merged := by
  induction length : runs.length using Nat.strongRecOn generalizing runs with
  | ind length induction =>
      match runs with
      | [] =>
          rw [mergeAll]
          exact Yields.pure ⟨divides.keeps, List.Pairwise.nil⟩
      | [run] =>
          rw [mergeAll]
          have keeps := divides.keeps
          rw [List.reverse_singleton, List.flatMap_singleton] at keeps
          exact Yields.pure ⟨keeps, divides.rises run List.mem_cons_self⟩
      | [upper, lower] =>
          rw [mergeAll]
          have ofUpper : upper ∈ [upper, lower] := by simp
          have ofLower : lower ∈ [upper, lower] := by simp
          have merged := yields_mergeRuns compares (divides.among_of_mem all ofLower)
            (divides.among_of_mem all ofUpper) (divides.rises lower ofLower)
              (divides.rises upper ofUpper)
          have keeps := divides.keeps
          rw [show [upper, lower].reverse = [lower, upper] from rfl, List.flatMap_cons,
            List.flatMap_singleton] at keeps
          exact merged.imp fun _ done => ⟨done.1.trans keeps, done.2⟩
      | upper :: lower :: lowest :: runs =>
          rw [mergeAll]
          split
          · refine (yields_joinRuns_divides compares all [upper] divides).bind fun joined done => ?_
            exact induction _ (by simp [← length]) done rfl
          · refine (yields_joinRuns_divides compares all [] divides).bind fun joined done => ?_
            exact induction _ (by simp [← length]) done rfl

/-- Runs are cut off and merged until no items are left. -/
theorem yields_gatherRuns (total : Nat) {fuel : Nat} {runs : List (Run α)} {done items : List α}
    (all : ∀ item ∈ done ++ items, among item) (divides : Divides before runs done)
    (enough : items.length < fuel) :
    Yields (gatherRuns below? total fuel runs items) fun sorted =>
      Keeps before sorted (done ++ items) ∧ Rises before sorted := by
  induction fuel generalizing runs done items with
  | zero => exact absurd enough (Nat.not_lt_zero _)
  | succ fuel induction =>
      obtain ⟨allDone, allItems⟩ := List.forall_mem_append.mp all
      rw [gatherRuns]
      cases items with
      | nil =>
          rw [List.append_nil]
          exact yields_mergeAll compares allDone divides
      | cons first items =>
          obtain ⟨run, rest, found, nonempty, keeps, rises⟩ :=
            exists_fullRun compares allItems (List.cons_ne_nil _ _) (leastRun total)
          have moved : Keeps before (done ++ run ++ rest) (done ++ first :: items) :=
            List.append_assoc done run rest ▸ keeps.append_left done
          have fewer : rest.length < fuel := by
            have total := keeps.perm.length_eq
            have positive := List.length_pos_iff.mpr nonempty
            rw [List.length_append] at total
            omega
          rw [List.isEmpty_cons, if_neg Bool.false_ne_true]
          refine Yields.lift_bind found ((yields_addRun compares allDone rises total _ divides).bind
            fun made divided => ?_)
          have sorted :=
            induction (fun item member => all item (moved.perm.subset member)) divided fewer
          exact sorted.imp fun _ finished => ⟨finished.1.trans moved, finished.2⟩

/-- Sorting gives the same items, of which none goes before one in front of it, and keeps the order
of those that do not go before each other. -/
theorem exists_sortItems {items : List α} (all : ∀ item ∈ items, among item) :
    ∃ sorted, sortItems below? items = some sorted ∧ Keeps before sorted items ∧
      Rises before sorted := by
  have start : Divides before ([] : List (Run α)) [] := ⟨Keeps.refl [], List.forall_mem_nil _⟩
  obtain ⟨sorted, patience, done, keeps, rises⟩ :=
    yields_gatherRuns compares items.length all start (Nat.lt_succ_self _) longStretch
  refine ⟨sorted, ?_, keeps, rises⟩
  change Prod.fst <$> _ = _
  rw [done]
  rfl

end ApiCompiler.Sorting
