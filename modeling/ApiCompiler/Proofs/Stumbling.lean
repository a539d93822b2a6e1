import ApiCompiler.Proofs.Logged

/-!
# Work that stumbles

Work that fails, but not with a fault of the document or of its plans. It stumbles at the first step
that does; steps that have no such fault to tell of stumble wherever they are not done.
-/

namespace ApiCompiler

open Outcome

variable {α β : Type}

/-- The failure is a fault of a document or of its plans. -/
def Failure.IsFault : Failure → Prop
  | .document _ => True
  | .plan _ => True
  | _ => False

@[simp] theorem Failure.isFault_document (fault : Document.Fault) :
    (Failure.document fault).IsFault :=
  trivial

@[simp] theorem Failure.isFault_plan (fault : Plan.Fault) : (Failure.plan fault).IsFault :=
  trivial

@[simp] theorem Failure.not_isFault_misuse (cause : Misuse) : ¬(Failure.misuse cause).IsFault :=
  id

@[simp] theorem Failure.not_isFault_shape (part : Part) (complaints : List Complaint) :
    ¬(Failure.shape part complaints).IsFault :=
  id

/-- Work fails, and not with a fault of the document or of its plans. -/
def Stumbles (result : Except Failure α) : Prop :=
  ∃ failure, result = .error failure ∧ ¬failure.IsFault

/-- Some work is not done. -/
def Fails (result : Except Failure α) : Prop :=
  ¬∃ value, result = .ok value

/-- Work that has no faults of the document or its plans to tell of. -/
def Blunt (result : Except Failure α) : Prop :=
  ∀ failure, result = .error failure → ¬failure.IsFault

namespace Stumbles

@[simp] theorem not_ok (value : α) : ¬Stumbles (.ok value : Except Failure α) :=
  fun ⟨_, same, _⟩ => nomatch same

@[simp] theorem error_iff {failure : Failure} :
    Stumbles (.error failure : Except Failure α) ↔ ¬failure.IsFault := by
  simp [Stumbles]

theorem bind_iff {first : Except Failure α} {next : α → Except Failure β} :
    Stumbles (first >>= next) ↔ Stumbles first ∨
      ∃ value, first = .ok value ∧ Stumbles (next value) := by
  cases first with
  | error failure => simp [Stumbles, bind, Except.bind]
  | ok value => simp [Stumbles, bind, Except.bind]

/-- Work on the items of a list stumbles at the first item that it is not done for. -/
theorem mapM_iff {work : α → Except Failure β} {items : List α} :
    Stumbles (items.mapM work) ↔ ∃ before item after, items = before ++ item :: after ∧
      (∀ other ∈ before, ∃ value, work other = .ok value) ∧ Stumbles (work item) := by
  induction items with
  | nil => simp [pure, Except.pure]
  | cons item items induction =>
      rw [List.mapM_cons, bind_iff]
      simp only [bind_iff, induction, pure, Except.pure, not_ok, and_false, exists_false, or_false]
      constructor
      · rintro (stumbles | ⟨value, done, before, later, after, rfl, each, stumbles⟩)
        · exact ⟨[], item, items, rfl, nofun, stumbles⟩
        · exact ⟨item :: before, later, after, rfl,
            List.forall_mem_cons.mpr ⟨⟨value, done⟩, each⟩, stumbles⟩
      · rintro ⟨before, later, after, same, each, stumbles⟩
        cases before with
        | nil =>
            obtain ⟨rfl, rfl⟩ := List.cons.inj same
            exact .inl stumbles
        | cons first before =>
            obtain ⟨rfl, rfl⟩ := List.cons.inj same
            obtain ⟨⟨value, done⟩, each⟩ := List.forall_mem_cons.mp each
            exact .inr ⟨value, done, before, later, after, rfl, each, stumbles⟩

end Stumbles

namespace Blunt

theorem stumbles_iff {result : Except Failure α} (blunt : Blunt result) :
    Stumbles result ↔ Fails result := by
  cases result with
  | ok value => simp [Fails]
  | error failure => simp [Fails, blunt failure rfl]

theorem ok (value : α) : Blunt (.ok value : Except Failure α) :=
  nofun

theorem misuse (cause : Misuse) : Blunt (.error (.misuse cause) : Except Failure α) := by
  rintro _ ⟨⟩
  simp

theorem mapError_misuse (result : Except Misuse α) : Blunt (result.mapError .misuse) := by
  cases result with
  | ok value => exact ok value
  | error cause => exact misuse cause

theorem orFail (part : Part) (checked : Checked α) : Blunt (checked.orFail part) := by
  cases checked with
  | fits value => exact ok value
  | flawed complaints =>
      rintro _ ⟨⟩
      simp

theorem bind {first : Except Failure α} {next : α → Except Failure β} (blunt : Blunt first)
    (rest : ∀ value, first = .ok value → Blunt (next value)) : Blunt (first >>= next) := by
  cases first with
  | error failure =>
      rintro _ ⟨⟩
      exact blunt failure rfl
  | ok value => exact rest value rfl

theorem mapM {work : α → Except Failure β} (each : ∀ item, Blunt (work item)) (items : List α) :
    Blunt (items.mapM work) := by
  induction items with
  | nil => exact ok []
  | cons item items induction =>
      rw [List.mapM_cons]
      exact (each item).bind fun value _ => induction.bind fun values _ => ok _

end Blunt

/-- Work with nothing to tell of stumbles where it is not done. -/
theorem Blunt.stumbles_iff_not {result : Except Failure α} {fits : Prop} (blunt : Blunt result)
    (done : (∃ value, result = .ok value) ↔ fits) : Stumbles result ↔ ¬fits := by
  rw [blunt.stumbles_iff, Fails, done]

end ApiCompiler
