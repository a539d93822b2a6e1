import ApiCompiler.Misuse
import Mathlib.Data.List.Forall2

/-!
# Outcomes of steps

When work that may fail at each of its steps succeeds, and with what.
-/

namespace ApiCompiler.Outcome

variable {ε δ α β : Type}

theorem error_ne_ok {fault : ε} {value : α} : (.error fault : Except ε α) ≠ .ok value := by
  simp

theorem bind_eq_ok {first : Except ε α} {next : α → Except ε β} {value : β} :
    first >>= next = .ok value ↔
      ∃ intermediate, first = .ok intermediate ∧ next intermediate = .ok value := by
  cases first with
  | error fault => simp [bind, Except.bind]
  | ok intermediate => simp [bind, Except.bind]

/-- Work behind a step that is only sometimes taken succeeds with what the whole succeeds with. -/
theorem eq_ok_of_guarded {condition : Prop} [Decidable condition] {step : Except ε Unit}
    {next : Unit → Except ε β} {value : β}
    (success : (if condition then step >>= next else next ()) = .ok value) :
      next () = .ok value := by
  split at success
  · obtain ⟨_, -, done⟩ := bind_eq_ok.mp success
    exact done
  · exact success

theorem mapError_eq_ok {change : ε → δ} {result : Except ε α} {value : α} :
    result.mapError change = .ok value ↔ result = .ok value := by
  cases result with
  | error fault => exact ⟨nofun, nofun⟩
  | ok given =>
      change Except.ok given = _ ↔ _
      simp

theorem mapError_eq_error {change : ε → δ} {result : Except ε α} {fault : δ} :
    result.mapError change = .error fault ↔
      ∃ cause, result = .error cause ∧ change cause = fault := by
  cases result with
  | error given =>
      change Except.error (change given) = _ ↔ _
      simp
  | ok value => exact ⟨nofun, nofun⟩

theorem bind_eq_error {first : Except ε α} {next : α → Except ε β} {fault : ε} :
    first >>= next = .error fault ↔
      first = .error fault ∨
        ∃ intermediate, first = .ok intermediate ∧ next intermediate = .error fault := by
  cases first with
  | error cause => simp [bind, Except.bind]
  | ok intermediate => simp [bind, Except.bind]

theorem toOption_eq_some {result : Except ε α} {value : α} :
    result.toOption = some value ↔ result = .ok value := by
  cases result with
  | error fault => simp [Except.toOption]
  | ok given => simp [Except.toOption]

/-- What was seen to succeed has a value. -/
theorem exists_eq_ok_of_isSome {result : Except ε α} (success : result.toOption.isSome = true) :
    ∃ value, result = .ok value := by
  cases result with
  | error fault => contradiction
  | ok value => exact ⟨value, rfl⟩

/-- Work on the items of a list succeeds exactly where the work on each item does. -/
theorem mapM_eq_ok_iff_forall₂ {work : α → Except ε β} {items : List α} {values : List β} :
    items.mapM work = .ok values ↔
      List.Forall₂ (fun item value => work item = .ok value) items values := by
  induction items generalizing values with
  | nil => simp [pure, Except.pure, eq_comm]
  | cons item items induction =>
      simp only [List.mapM_cons, bind_eq_ok, pure, Except.pure, Except.ok.injEq, induction,
        List.forall₂_cons_left_iff]
      constructor
      · rintro ⟨value, first, rest, each, rfl⟩
        exact ⟨value, rest, first, each, rfl⟩
      · rintro ⟨value, rest, first, each, rfl⟩
        exact ⟨value, first, rest, each, rfl⟩

/-- Work that is the same at each item is the same on a list of them. -/
theorem mapM_congr {work other : α → Except ε β} {items : List α}
    (same : ∀ item ∈ items, work item = other item) : items.mapM work = items.mapM other := by
  induction items with
  | nil => rfl
  | cons item items induction =>
      obtain ⟨own, others⟩ := List.forall_mem_cons.mp same
      rw [List.mapM_cons, List.mapM_cons, own, induction others]

theorem exists_bind_iff {first : Except ε α} {next : α → Except ε β} :
    (∃ value, first >>= next = .ok value) ↔ ∃ given, first = .ok given ∧ ∃ value,
      next given = .ok value := by
  simp only [bind_eq_ok]
  grind

theorem exists_map_iff {change : α → β} {result : Except ε α} :
    (∃ value, change <$> result = .ok value) ↔ ∃ given, result = .ok given := by
  cases result <;> simp [Functor.map, Except.map]

theorem exists_mapM_iff {work : α → Except ε β} {items : List α} :
    (∃ values, items.mapM work = .ok values) ↔ ∀ item ∈ items, ∃ value, work item = .ok value := by
  simp only [mapM_eq_ok_iff_forall₂]
  induction items with
  | nil => simp
  | cons item items induction =>
      simp only [List.forall₂_cons_left_iff, List.forall_mem_cons, ← induction]
      grind

/-- Work on the items of a list fails as the work on one of them does. -/
theorem exists_mem_of_mapM_eq_error {work : α → Except ε β} {items : List α} {fault : ε}
    (failed : items.mapM work = .error fault) : ∃ item ∈ items, work item = .error fault := by
  induction items with
  | nil => cases failed
  | cons item items induction =>
      rw [List.mapM_cons] at failed
      rcases bind_eq_error.mp failed with own | ⟨_, -, rest⟩
      · exact ⟨item, List.mem_cons_self, own⟩
      · rcases bind_eq_error.mp rest with later | ⟨_, -, never⟩
        · obtain ⟨other, member, failed⟩ := induction later
          exact ⟨other, List.mem_cons_of_mem _ member, failed⟩
        · cases never

/-- Work that goes on from item to item fails at the first one where it does. -/
theorem foldlM_eq_error_iff {work : β → α → Except ε β} {items : List α} {start : β} {fault : ε} :
    items.foldlM work start = .error fault ↔
      ∃ front item back reached, items = front ++ item :: back ∧
        front.foldlM work start = .ok reached ∧
        work reached item = .error fault := by
  induction items generalizing start with
  | nil => simp [pure, Except.pure]
  | cons first items induction =>
      simp only [List.foldlM_cons, bind_eq_error, induction]
      constructor
      · rintro (own | ⟨next, done, front, item, back, reached, rfl, passed, failed⟩)
        · exact ⟨[], first, items, start, rfl, rfl, own⟩
        · exact ⟨first :: front, item, back, reached,
            rfl, by rw [List.foldlM_cons, done]; exact passed, failed⟩
      · rintro ⟨_ | ⟨other, front⟩, item, back, reached, split, passed, failed⟩
        · obtain ⟨rfl, rfl⟩ := List.cons.inj split
          obtain rfl := Except.ok.inj passed
          exact .inl failed
        · obtain ⟨rfl, rfl⟩ := List.cons.inj split
          rw [List.foldlM_cons, bind_eq_ok] at passed
          obtain ⟨next, done, passed⟩ := passed
          exact .inr ⟨next, done, front, item, back, reached, rfl, passed, failed⟩

theorem map_eq_ok {change : α → β} {result : Except ε α} {value : β} :
    change <$> result = .ok value ↔ ∃ given, result = .ok given ∧ change given = value := by
  cases result <;> simp [Functor.map, Except.map]

theorem map_eq_error {change : α → β} {result : Except ε α} {fault : ε} :
    change <$> result = .error fault ↔ result = .error fault := by
  cases result <;> simp [Functor.map, Except.map]

/-- What stands in one of two lists that agree place by place has its like in the other. -/
theorem exists_mem_of_forall₂ {relation : α → β → Prop} {items : List α} {values : List β}
    (each : List.Forall₂ relation items values) :
    ∀ value ∈ values, ∃ item ∈ items, relation item value := by
  induction each with
  | nil => exact fun _ member => absurd member List.not_mem_nil
  | cons done _ induction =>
      refine List.forall_mem_cons.mpr ⟨⟨_, List.mem_cons_self, done⟩, fun value member => ?_⟩
      obtain ⟨source, held, made⟩ := induction value member
      exact ⟨source, List.mem_cons_of_mem _ held, made⟩

/-- Whatever comes of work on the items of a list comes of one of them. -/
theorem exists_mem_of_mapM_eq_ok {work : α → Except ε β} {items : List α} {values : List β}
    (success : items.mapM work = .ok values) :
    ∀ value ∈ values, ∃ item ∈ items, work item = .ok value :=
  exists_mem_of_forall₂ (mapM_eq_ok_iff_forall₂.mp success)

end ApiCompiler.Outcome
