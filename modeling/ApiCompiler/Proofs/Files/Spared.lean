import ApiCompiler.Files.Replacement
import ApiCompiler.Proofs.Action
import ApiCompiler.Proofs.Files.Steps
import ApiCompiler.Work

/-!
# Work that spares files

Work that reads, makes directories and writes remarks leaves every file as it is, however it ends.
It takes no step that could go wrong, and writes nothing to the output.
-/

namespace ApiCompiler

open Machine (Alike)

namespace Files

/-- Later files hold the directories of earlier ones and exactly the same files. -/
structure Spared (before after : Files) : Prop where
  directory : ∀ place, before.at? place = some .directory → after.at? place = some .directory
  file : ∀ place content,
    after.at? place = some (.file content) ↔ before.at? place = some (.file content)

namespace Spared

variable {before after last : Files} {apart place : Place}

theorem refl (files : Files) : Spared files files :=
  ⟨fun _ => id, fun _ _ => Iff.rfl⟩

theorem trans (first : Spared before after) (second : Spared after last) : Spared before last :=
  ⟨fun place held => second.directory place (first.directory place held),
    fun place content => (second.file place content).trans (first.file place content)⟩

theorem kept (spared : Spared before after) : Kept apart before after :=
  ⟨spared.directory, fun place content _ => spared.file place content⟩

/-- Where no place is an exception, all files are spared. -/
theorem of_forall_kept (kept : ∀ apart, Kept apart before after) : Spared before after := by
  refine ⟨(kept []).directory, fun place content => ?_⟩
  have differs : place ≠ place ++ [""] := by simp
  exact (kept (place ++ [""])).file place content differs

theorem of_at?_eq (same : ∀ place, after.at? place = before.at? place) : Spared before after :=
  of_forall_kept fun _ => Kept.of_at?_eq same

end Spared

end Files

/-- A machine that has its files still, has yet to meet the same mishaps and was told nothing
new. -/
structure Machine.Spared (before after : Machine) : Prop where
  alike : Alike before after
  files : Files.Spared before.files after.files
  mishaps : after.mishaps = before.mishaps
  output : after.output = before.output

namespace Machine.Spared

variable {machine middle after : Machine}

theorem refl (machine : Machine) : Spared machine machine :=
  ⟨Alike.refl machine, Files.Spared.refl machine.files, rfl, rfl⟩

theorem trans (first : Spared machine middle) (second : Spared middle after) :
    Spared machine after :=
  ⟨first.alike.trans second.alike, first.files.trans second.files,
    second.mishaps.trans first.mishaps, second.output.trans first.output⟩

theorem makeDirectory (machine : Machine) (path : Files.Path) :
    Spared machine (machine.answer (.makeDirectory path)).2 := by
  cases answered : machine.answer (.makeDirectory path) with
  | mk outcome after =>
      cases outcome with
      | error fault =>
          obtain ⟨-, rfl⟩ := settle_eq_error answered
          exact refl machine
      | ok _ =>
          obtain ⟨step, alike⟩ := settle_eq_ok answered
          obtain ⟨place, -, free, files⟩ := Files.makeDirectory_eq_ok_iff.mp step
          have after_eq : after = { machine with files := after.files } := by
            simp only [answer, settle, step, Prod.mk.injEq, true_and] at answered
            rw [← answered]
          refine ⟨alike, Files.Spared.of_forall_kept fun apart => ?_, ?_, ?_⟩
          · rw [files]
            exact Files.Kept.put_directory free
          · rw [after_eq]
          · rw [after_eq]

theorem emit_diagnostics (machine : Machine) (text : String) :
    Spared machine (machine.emit .diagnostics text) :=
  ⟨⟨rfl, rfl, rfl, rfl, rfl⟩, Files.Spared.refl machine.files, rfl, rfl⟩

theorem emit_empty (machine : Machine) (stream : Stream) :
    Spared machine (machine.emit stream "") := by
  cases stream with
  | diagnostics => exact emit_diagnostics machine ""
  | output =>
      exact ⟨⟨rfl, rfl, rfl, rfl, rfl⟩, Files.Spared.refl machine.files, rfl, String.append_empty⟩

end Machine.Spared

/-- On whatever machine an action runs, it leaves all files as they are. -/
def Action.Spares {α : Type} (action : Action α) : Prop :=
  ∀ machine, Machine.Spared machine (action.run machine).2

namespace Action

variable {α β : Type}

theorem spares_pure (value : α) : Spares (pure value) :=
  Machine.Spared.refl

theorem Spares.bind {first : Action α} {next : α → Action β} (spares : first.Spares)
    (rest : ∀ value, (next value).Spares) : (first >>= next).Spares := by
  intro machine
  rw [run_bind]
  exact (spares machine).trans (rest _ _)

theorem spares_makeDirectory (path : Files.Path) : Spares (query (.makeDirectory path)) :=
  (Machine.Spared.makeDirectory · path)

/-- A question that the machine answers and stays as it is. -/
theorem spares_query {asked : Query}
    (still : ∀ machine : Machine, (machine.answer asked).2 = machine) :
    Spares (query asked) := by
  intro machine
  rw [run_query, still machine]
  exact Machine.Spared.refl machine

theorem spares_acceptPresent (path : Files.Path) (fault : Files.Fault) :
    Spares (Files.acceptPresent path fault) := by
  refine (spares_query fun _ => rfl).bind fun present => ?_
  split
  · exact spares_pure _
  · exact spares_pure _

theorem spares_makeLast (path : Files.Path) : Spares (Files.makeLast path) := by
  refine (spares_makeDirectory path).bind fun outcome => ?_
  split
  · exact spares_pure _
  · exact spares_pure _
  · exact spares_acceptPresent path _

theorem spares_makeAlong (anchor : Files.Anchor) (names : List String) :
    Spares (Files.makeAlong anchor names) := by
  induction names with
  | nil => exact spares_makeLast _
  | cons name above induction =>
      refine (spares_makeDirectory _).bind fun outcome => ?_
      split
      · exact spares_pure _
      · refine induction.bind fun outcome => ?_
        split
        · exact spares_makeLast _
        · exact spares_pure _
      · exact spares_acceptPresent _ _

theorem spares_makeDirectories (path : Files.Path) : Spares (Files.makeDirectories path) :=
  spares_makeAlong _ _

end Action

namespace Work

variable {α β : Type}

/-- However some work ends, it leaves all files as they are. -/
def Spares (work : Work α) : Prop :=
  work.run.Spares

theorem Spares.spared {work : Work α} {machine after : Machine} {outcome : Except Failure α}
    (spares : work.Spares) (ran : work.run.run machine = (outcome, after)) :
    Machine.Spared machine after := by
  have spared := spares machine
  rwa [ran] at spared

theorem spares_pure (value : α) : Spares (pure value) :=
  Action.spares_pure _

theorem spares_throw (failure : Failure) : Spares (throw failure : Work α) :=
  Action.spares_pure _

theorem Spares.bind {work : Work α} {next : α → Work β} (spares : work.Spares)
    (rest : ∀ value, (next value).Spares) : (work >>= next).Spares := by
  rw [Spares, ExceptT.run_bind]
  refine Action.Spares.bind spares fun outcome => ?_
  cases outcome with
  | ok value => exact rest value
  | error failure => exact Action.spares_pure _

theorem spares_ofResult (result : Except Failure α) : Spares (ofResult result) :=
  Action.spares_pure result

theorem spares_lift {action : Action α} (spares : action.Spares) :
    Spares (ExceptT.lift action : Work α) :=
  Action.Spares.bind spares fun _ => Action.spares_pure _

theorem spares_query {asked : Query}
    (still : ∀ machine : Machine, (machine.answer asked).2 = machine) :
    Spares (query asked) :=
  spares_lift (Action.spares_query still)

theorem spares_onFiles {action : Action (Except Files.Fault α)} (spares : action.Spares) :
    Spares (onFiles action) := by
  refine (spares_lift spares).bind fun outcome => ?_
  cases outcome with
  | ok value => exact spares_pure value
  | error fault => exact spares_throw _

theorem spares_makeDirectories (path : Files.Path) :
    Spares (onFiles (Files.makeDirectories path)) :=
  spares_onFiles (Action.spares_makeDirectories path)

theorem spares_forM {items : List α} {work : α → Work PUnit} (each : ∀ item, Spares (work item)) :
    Spares (items.forM work) := by
  induction items with
  | nil => exact spares_pure _
  | cons item items induction => exact (each item).bind fun _ => induction

end Work

end ApiCompiler
