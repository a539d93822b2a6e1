import ApiCompiler.Console.Session
import ApiCompiler.Proofs.Action
import ApiCompiler.Proofs.Files.Replacement

/-!
# Work that can be repeated

Work that only reads, apart from directories that it makes, comes to the same result when it is done
again later: on a machine that answers alike and has the files that were left, all but one file that
the work does not look at.
-/

namespace ApiCompiler

open Files (Kept Place)
open Machine (Alike)

/-- The path of a file that a query looks for or reads. -/
def Query.looksAt : Query → List Files.Path
  | .isFile path => [path]
  | .read path => [path]
  | _ => []

/-- The paths of the files that an action looks for or reads on a machine, in order. -/
def Action.looked {α : Type} : Action α → Machine → List Files.Path
  | .done _, _ => []
  | .ask query next, machine =>
    query.looksAt ++ (next (machine.answer query).1).looked (machine.answer query).2

theorem Action.looked_bind {α β : Type} (first : Action α) (next : α → Action β)
    (machine : Machine) :
    (first >>= next).looked machine =
      first.looked machine ++ (next (first.run machine).1).looked (first.run machine).2 := by
  induction first generalizing machine with
  | done value => rfl
  | ask query rest induction =>
      change query.looksAt ++ (rest (machine.answer query).1 >>= next).looked _ = _
      rw [induction, ← List.append_assoc]
      rfl

namespace Work

variable {α β : Type} {apart : Place} {machine after later : Machine}

/-- None of the paths that some work looks at leads to a place. -/
def Avoids (apart : Place) (work : Work α) (machine later : Machine) : Prop :=
  ∀ path ∈ work.run.looked machine, later.files.resolve later.workingDirectory path ≠ .ok apart

theorem avoids_bind {work : Work α} {next : α → Work β} {value : α}
    (ran : work.run.run machine = (.ok value, after))
    (avoids : Avoids apart (work >>= next) machine later) :
    Avoids apart work machine later ∧ Avoids apart (next value) after later := by
  have looked : (work >>= next).run.looked machine =
      work.run.looked machine ++ (next value).run.looked after := by
    rw [ExceptT.run_bind, Action.looked_bind, ran]
  unfold Avoids at avoids ⊢
  rw [looked] at avoids
  exact ⟨fun path member => avoids path (List.mem_append_left _ member),
    fun path member => avoids path (List.mem_append_right _ member)⟩

theorem Avoids.of_files_eq {between : Machine} {work : Work α}
    (avoids : Avoids apart work machine later) (files : between.files = later.files)
    (alike : Alike later between) : Avoids apart work machine between := by
  intro path member
  rw [files, alike.workingDirectory]
  exact avoids path member

/-- A run that went well, and would go the same way again and change no file. -/
structure Repeats (apart : Place) (work : Work α) (machine : Machine) (value : α)
    (after : Machine) : Prop where
  alike : Alike machine after
  kept : Kept apart machine.files after.files
  again : ∀ later, Alike machine later → Kept apart after.files later.files →
    Avoids apart work machine later →
    ∃ last, work.run.run later = (.ok value, last) ∧ last.files = later.files ∧ Alike later last

/-- However some work goes well on a machine, it would go the same way again. -/
def Repeatable (apart : Place) (work : Work α) (machine : Machine) : Prop :=
  ∀ value after, work.run.run machine = (.ok value, after) → Repeats apart work machine value after

theorem repeatable_pure (value : α) : Repeatable apart (pure value) machine := by
  intro given after ran
  obtain ⟨rfl, rfl⟩ := Action.run_pure_eq_ok_iff.mp ran
  exact ⟨Alike.refl after, Kept.refl after.files, fun later _ _ _ =>
    ⟨later, rfl, rfl, Alike.refl later⟩⟩

theorem repeatable_throw (failure : Failure) :
    Repeatable apart (throw failure : Work α) machine := by
  intro value after ran
  simp [throw, throwThe, MonadExceptOf.throw, ExceptT.mk, ExceptT.run] at ran

theorem repeatable_ofResult (result : Except Failure α) :
    Repeatable apart (ofResult result) machine := by
  cases result with
  | ok value => exact repeatable_pure value
  | error failure => exact repeatable_throw failure

theorem Repeats.bind {work : Work α} {next : α → Work β} {given : α} {middle : Machine} {value : β}
    (ran : work.run.run machine = (.ok given, middle))
    (first : Repeats apart work machine given middle)
    (second : Repeats apart (next given) middle value after) :
    Repeats apart (work >>= next) machine value after := by
  refine ⟨first.alike.trans second.alike, first.kept.trans second.kept, ?_⟩
  intro later alike kept avoids
  obtain ⟨avoidsFirst, avoidsNext⟩ := avoids_bind ran avoids
  obtain ⟨between, againFirst, sameFiles, alikeBetween⟩ :=
    first.again later alike (second.kept.trans kept) avoidsFirst
  have keptBetween : Kept apart after.files between.files := by rwa [sameFiles]
  have alikeMiddle := (first.alike.symm.trans alike).trans alikeBetween
  obtain ⟨last, againNext, sameLast, alikeLast⟩ :=
    second.again between alikeMiddle keptBetween (avoidsNext.of_files_eq sameFiles alikeBetween)
  exact ⟨last, Action.run_bind_eq_ok_iff.mpr ⟨given, between, againFirst, againNext⟩,
    sameLast.trans sameFiles, alikeBetween.trans alikeLast⟩

/-- Steps that can be repeated can be repeated one after another. The first has to be only where the
others go well after it. -/
theorem repeatable_bind {work : Work α} {next : α → Work β}
    (first : ∀ given middle, work.run.run machine = (.ok given, middle) →
      (∃ value after, (next given).run.run middle = (.ok value, after)) →
      Repeats apart work machine given middle)
    (second : ∀ given middle, work.run.run machine = (.ok given, middle) →
      Repeats apart work machine given middle → Repeatable apart (next given) middle) :
    Repeatable apart (work >>= next) machine := by
  intro value after ran
  obtain ⟨given, middle, ranFirst, ranNext⟩ := Action.run_bind_eq_ok_iff.mp ran
  have repeats := first given middle ranFirst ⟨value, after, ranNext⟩
  exact repeats.bind ranFirst (second given middle ranFirst repeats value after ranNext)

theorem Repeatable.bind {work : Work α} {next : α → Work β} (first : Repeatable apart work machine)
    (second : ∀ given middle, work.run.run machine = (.ok given, middle) →
      Repeats apart work machine given middle → Repeatable apart (next given) middle) :
    Repeatable apart (work >>= next) machine :=
  repeatable_bind (fun given middle ran _ => first given middle ran) second

/-- A query that changes no file, and that is answered later as it was. -/
theorem repeatable_query {query : Query}
    (steady : ∀ other : Machine, (other.answer query).2.files = other.files ∧
      Alike other (other.answer query).2)
    (same : ∀ later, Alike machine later → Kept apart machine.files later.files →
      (∀ path ∈ query.looksAt, later.files.resolve later.workingDirectory path ≠ .ok apart) →
      (later.answer query).1 = (machine.answer query).1) :
    Repeatable apart (Work.query query) machine := by
  intro value after ran
  have answered (other : Machine) : (Work.query query).run.run other =
      (.ok (other.answer query).1, (other.answer query).2) := rfl
  rw [answered, Prod.mk.injEq, Except.ok.injEq] at ran
  obtain ⟨rfl, rfl⟩ := ran
  obtain ⟨unchanged, alike⟩ := steady machine
  have keptNow : Kept apart machine.files (machine.answer query).2.files := by
    rw [unchanged]
    exact Kept.refl machine.files
  refine ⟨alike, keptNow, ?_⟩
  intro later alikeLater kept avoids
  rw [unchanged] at kept
  have answer_eq := same later alikeLater kept fun path member =>
    avoids path (List.mem_append_left _ member)
  exact ⟨(later.answer query).2, by rw [answered, answer_eq], steady later⟩

theorem unmoved (other : Machine) : other.files = other.files ∧ Alike other other :=
  ⟨rfl, Alike.refl other⟩

theorem repeatable_environment (name : String) :
    Repeatable apart (query (.environment name)) machine :=
  repeatable_query unmoved fun _ alike _ _ => congrArg (List.lookup name) alike.environment

theorem repeatable_system : Repeatable apart (query .system) machine :=
  repeatable_query unmoved fun _ alike _ _ => alike.system

theorem repeatable_workingDirectory : Repeatable apart (query .workingDirectory) machine :=
  repeatable_query unmoved fun _ alike _ _ =>
    congrArg (Files.Path.mk .root) alike.workingDirectory

theorem repeatable_emit (stream : Stream) (text : String) :
    Repeatable apart (query (.emit stream text)) machine := by
  refine repeatable_query (fun other => ?_) fun _ _ _ _ => rfl
  cases stream <;> exact ⟨rfl, ⟨rfl, rfl, rfl, rfl, rfl⟩⟩

theorem repeatable_put (session : Session) (item : Item) :
    Repeatable apart (session.put item) machine :=
  (repeatable_ofResult _).bind fun _ _ _ _ =>
    (repeatable_emit _ _).bind fun _ _ _ _ => repeatable_emit _ _

theorem repeatable_forM {items : List α} {work : α → Work PUnit}
    (each : ∀ item machine, Repeatable apart (work item) machine) :
    Repeatable apart (items.forM work) machine := by
  induction items generalizing machine with
  | nil => exact repeatable_pure _
  | cons item items induction => exact (each item machine).bind fun _ _ _ _ => induction

theorem repeatable_report (session : Session) (work : Logged α) :
    Repeatable apart (session.report work) machine :=
  (repeatable_forM fun _ _ => repeatable_put session _).bind fun _ _ _ _ => repeatable_ofResult _

theorem run_lift (action : Action α) (machine : Machine) :
    (ExceptT.lift action : Work α).run.run machine =
      (.ok (action.run machine).1, (action.run machine).2) :=
  Action.run_bind action (fun value => Action.done (Except.ok value)) machine

theorem onFiles_eq_ok_iff {action : Action (Except Files.Fault α)} {value : α} :
    (onFiles action).run.run machine = (.ok value, after) ↔
      action.run machine = (.ok value, after) := by
  rw [onFiles, Action.run_bind_eq_ok_iff]
  simp only [run_lift, Prod.mk.injEq, Except.ok.injEq]
  cases ran : action.run machine with
  | mk outcome middle =>
      cases outcome with
      | error fault =>
          simp [throw, throwThe, MonadExceptOf.throw, ExceptT.mk, ExceptT.run]
      | ok given => simp [eq_comm]

theorem repeatable_onFiles {action : Action (Except Files.Fault α)}
    (lifted : Repeatable apart (ExceptT.lift action) machine) :
    Repeatable apart (onFiles action) machine := by
  refine lifted.bind fun outcome _ _ _ => ?_
  cases outcome with
  | ok value => exact repeatable_pure value
  | error fault => exact repeatable_throw (.files fault)

/-- Directories that were made are there and are not made again. -/
theorem repeatable_makeDirectories (path : Files.Path) :
    Repeatable apart (onFiles (Files.makeDirectories path)) machine := by
  intro value after ran
  have made : Files.Made apart path machine after :=
    Files.made_of_makeDirectories (onFiles_eq_ok_iff.mp ran)
  refine ⟨made.alike, made.kept, ?_⟩
  intro later alike kept _
  have found : later.files.find later.workingDirectory path = .ok .directory := by
    rw [alike.workingDirectory, ← made.alike.workingDirectory]
    exact kept.find_directory made.found
  exact ⟨later, onFiles_eq_ok_iff.mpr (Files.makeDirectories_run_of_found found), rfl,
    Alike.refl later⟩

/-- Whether a file is in a directory that is there. -/
theorem repeatable_isFile_child {path : Files.Path}
    (directory : machine.files.find machine.workingDirectory path = .ok .directory)
    (name : String) :
    Repeatable apart (onFiles (Action.query (.isFile (path.child name)))) machine := by
  have asked : Repeatable apart (query (.isFile (path.child name))) machine := by
    refine repeatable_query unmoved fun later alike kept avoids => ?_
    change later.files.isFile later.workingDirectory _ = machine.files.isFile _ _
    have elsewhere := avoids _ List.mem_cons_self
    rw [alike.workingDirectory] at elsewhere ⊢
    exact kept.isFile_child directory elsewhere
  exact repeatable_onFiles asked

/-- What a file reads as that is there. -/
theorem repeatable_read {path : Files.Path}
    (present : machine.files.isFile machine.workingDirectory path = .ok true) :
    Repeatable apart (query (.read path)) machine := by
  refine repeatable_query unmoved fun later alike kept avoids => ?_
  obtain ⟨content, found⟩ := Files.isFile_eq_ok_true_iff.mp present
  have elsewhere := avoids _ List.mem_cons_self
  rw [alike.workingDirectory] at elsewhere
  have again := kept.find_file elsewhere found
  change later.files.read later.workingDirectory path = machine.files.read _ path
  rw [alike.workingDirectory, Files.read, Files.read, found, again]

end Work

end ApiCompiler
