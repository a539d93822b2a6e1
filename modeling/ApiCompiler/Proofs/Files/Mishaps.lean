import ApiCompiler.Proofs.Files.Replacement
import ApiCompiler.Proofs.Files.Spared

/-!
# Mishaps while a file is replaced

What is left when some step of replacing a file fails. The file that was there stays in every case.
The one written beside it is removed again, unless the step that fails is one of filling it and
closing it fails as well: then it stays.
-/

namespace ApiCompiler

open Machine (Alike)
open Outcome (error_ne_ok)

namespace Machine

/-- A step of writing fails, counted from the coming one. -/
def Fails (machine : Machine) (step : Nat) : Prop :=
  machine.mishaps[step]? = some true

/-- None of the steps from one to before another fails. -/
def Passes (machine : Machine) (first last : Nat) : Prop :=
  ∀ step, first ≤ step → step < last → ¬machine.Fails step

theorem passes_self (machine : Machine) (step : Nat) : machine.Passes step step := by
  intro other low high
  omega

theorem Passes.succ {machine : Machine} {first step : Nat} (passes : machine.Passes first step)
    (passed : ¬machine.Fails step) : machine.Passes first (step + 1) := by
  intro other low high
  rcases Nat.lt_succ_iff_lt_or_eq.mp high with earlier | rfl
  · exact passes other low earlier
  · exact passed

theorem Passes.append {machine : Machine} {first middle last : Nat}
    (passes : machine.Passes first middle) (more : machine.Passes middle last) :
    machine.Passes first last := by
  intro step low high
  by_cases earlier : step < middle
  · exact passes step low earlier
  · exact more step (by omega) high

theorem Passes.mono {machine : Machine} {first later last : Nat}
    (passes : machine.Passes first last)
    (low : first ≤ later) : machine.Passes later last :=
  fun step lower high => passes step (by omega) high

/-- The first step that fails, from some step on, is one of filling the file beside, and the step of
closing it that comes next fails as well. -/
def Strands (machine : Machine) (first : Nat) : Prop :=
  ∃ step, 1 ≤ step ∧ step < 4 ∧ machine.Passes first step ∧ machine.Fails step ∧
    machine.Fails (step + 1)

/-- Where one step passes, the steps behind it decide. -/
theorem passes_iff_of_not_fails {machine : Machine} {first : Nat} (passed : ¬machine.Fails first)
    (last : Nat) : machine.Passes first last ↔ machine.Passes (first + 1) last := by
  refine ⟨fun passes => passes.mono (Nat.le_succ first), fun passes step low high => ?_⟩
  rcases Nat.eq_or_lt_of_le low with rfl | behind
  · exact passed
  · exact passes step behind high

theorem strands_iff_of_not_fails {machine : Machine} {first : Nat} (passed : ¬machine.Fails first) :
    machine.Strands first ↔ machine.Strands (first + 1) := by
  simp only [Strands, passes_iff_of_not_fails passed]

/-- A machine that took some steps of writing and was told nothing. -/
structure Ventured (steps : Nat) (machine after : Machine) : Prop where
  alike : Alike machine after
  mishaps : after.mishaps = machine.mishaps.drop steps
  output : after.output = machine.output

namespace Ventured

variable {machine middle after : Machine} {steps more : Nat}

theorem trans (first : Ventured steps machine middle) (second : Ventured more middle after) :
    Ventured (steps + more) machine after := by
  refine ⟨first.alike.trans second.alike, ?_, second.output.trans first.output⟩
  rw [second.mishaps, first.mishaps, List.drop_drop]

theorem withFiles (ventured : Ventured steps machine after) (files : Files) :
    Ventured steps machine { after with files := files } :=
  ⟨ventured.alike.trans ⟨rfl, rfl, rfl, rfl, rfl⟩, ventured.mishaps, ventured.output⟩

theorem fails_iff (ventured : Ventured steps machine after) (step : Nat) :
    after.Fails step ↔ machine.Fails (steps + step) := by
  rw [Fails, Fails, ventured.mishaps, List.getElem?_drop]

end Ventured

namespace Spared

variable {machine after : Machine}

theorem ventured (spared : Spared machine after) : Ventured 0 machine after :=
  ⟨spared.alike, spared.mishaps, spared.output⟩

theorem fails_iff (spared : Spared machine after) (step : Nat) :
    after.Fails step ↔ machine.Fails step := by
  rw [Fails, Fails, spared.mishaps]

theorem passes_iff (spared : Spared machine after) (first last : Nat) :
    after.Passes first last ↔ machine.Passes first last := by
  simp only [Passes, spared.fails_iff]

theorem strands_iff (spared : Spared machine after) (first : Nat) :
    after.Strands first ↔ machine.Strands first := by
  simp only [Strands, spared.fails_iff, spared.passes_iff]

end Spared

instance (machine : Machine) (step : Nat) : Decidable (machine.Fails step) :=
  inferInstanceAs (Decidable (_ = _))

/-- The machine after it was asked for a step of writing, whether or not the step fails. -/
def past (machine : Machine) : Machine :=
  { machine with mishaps := machine.mishaps.drop 1 }

theorem ventured_past (machine : Machine) : Ventured 1 machine machine.past :=
  ⟨⟨rfl, rfl, rfl, rfl, rfl⟩, rfl, rfl⟩

theorem attempt_eq (machine : Machine) (step : Except Files.Fault Files) :
    machine.attempt step =
      if machine.Fails 0 then (.error .failed, machine.past) else machine.past.settle step := by
  obtain ⟨_, _, _, _, _, _, _, mishaps, _, _⟩ := machine
  rcases mishaps with _ | ⟨_ | _, rest⟩ <;> rfl

variable {machine after : Machine} {outcome : Except Files.Fault Unit}

/-- The two ways that a step of writing goes that the files allow. -/
theorem attempt_ok_cases {files : Files} (ran : machine.attempt (.ok files) = (outcome, after)) :
    Ventured 1 machine after ∧
      (machine.Fails 0 ∧ outcome = .error .failed ∧ after.files = machine.files ∨
        ¬machine.Fails 0 ∧ outcome = .ok () ∧ after.files = files) := by
  rw [attempt_eq] at ran
  split at ran
  · next fails =>
    obtain ⟨rfl, rfl⟩ := Prod.mk.inj ran
    exact ⟨ventured_past machine, .inl ⟨fails, rfl, rfl⟩⟩
  · next passes =>
    obtain ⟨rfl, rfl⟩ := Prod.mk.inj ran
    exact ⟨(ventured_past machine).withFiles files, .inr ⟨passes, rfl, rfl⟩⟩

/-- A step of writing that the files do not allow fails, and changes none. -/
theorem attempt_error_cases {fault : Files.Fault}
    (ran : machine.attempt (.error fault) = (outcome, after)) :
    Ventured 1 machine after ∧ outcome ≠ .ok () ∧ after.files = machine.files := by
  rw [attempt_eq] at ran
  split at ran
  all_goals
    obtain ⟨rfl, rfl⟩ := Prod.mk.inj ran
    exact ⟨ventured_past machine, error_ne_ok, rfl⟩

end Machine

/-! ## The file beside -/

namespace Files

variable {machine after : Machine} {path temporary : Path} {text : String}
  {outcome : Except Fault Unit}

/-- There is one file more, at a place where nothing was. -/
structure Joined (beside : Place) (before after : Files) : Prop where
  free : before.at? beside = none
  added : ∃ content, after.at? beside = some (.file content)
  others : ∀ place, place ≠ beside → after.at? place = before.at? place

namespace Joined

variable {before files : Files} {beside : Place}

theorem kept (joined : Joined beside before files) : Kept beside before files := by
  refine ⟨fun place held => ?_, fun place content elsewhere => by
    rw [joined.others place elsewhere]⟩
  have elsewhere : place ≠ beside := by
    rintro rfl
    rw [joined.free] at held
    contradiction
  rw [joined.others place elsewhere, held]

theorem ne_root (joined : Joined beside before files) : beside ≠ [] := by
  have vacant : before.at? beside ≠ some .directory := by simp [joined.free]
  exact ne_root_of_at?_ne vacant

/-- The file beside is filled. -/
theorem put (joined : Joined beside before files) (content : Content) :
    Joined beside before (files.put beside (.file content)) := by
  refine ⟨joined.free, ⟨content, at?_put_self files joined.ne_root _⟩, fun place elsewhere => ?_⟩
  rw [at?_put_of_ne files elsewhere, joined.others place elsewhere]

/-- Without the file beside, all is as it was. -/
theorem at?_erase (joined : Joined beside before files) (place : Place) :
    (files.erase beside).at? place = before.at? place := by
  by_cases same : place = beside
  · rw [same, at?_erase_self files joined.ne_root, joined.free]
  · rw [at?_erase_of_ne files same, joined.others place same]

end Joined

/-- A machine with the file beside, some steps of writing after one without it. -/
structure Writing (ready : Machine) (temporary : Path) (beside : Place) (steps : Nat)
    (machine : Machine) : Prop where
  ventured : Machine.Ventured steps ready machine
  joined : Joined beside ready.files machine.files
  led : ready.files.resolve ready.workingDirectory temporary = .ok beside

/-- A machine with the files of another, some steps of writing after it. -/
structure Cleared (ready : Machine) (steps : Nat) (machine : Machine) : Prop where
  ventured : Machine.Ventured steps ready machine
  spared : Spared ready.files machine.files

/-- A path with a name that leads to a file, or to where a file can be. -/
def Lands (machine : Machine) (path : Path) : Prop :=
  ∃ place, machine.files.resolve machine.workingDirectory path = .ok place ∧
    machine.files.at? place ≠ some .directory ∧ path.name ≠ "" ∧ path.name ≠ ".."

namespace Writing

variable {ready : Machine} {beside : Place} {steps : Nat}

theorem leads (writing : Writing ready temporary beside steps machine) :
    machine.files.resolve machine.workingDirectory temporary = .ok beside := by
  rw [writing.ventured.alike.workingDirectory]
  exact writing.joined.kept.resolve writing.led

/-- A step that the files allow goes well unless it is one that fails, and the file beside stays. -/
theorem attempt (writing : Writing ready temporary beside steps machine) {files : Files}
    (joined : Joined beside ready.files files)
    (ran : machine.attempt (.ok files) = (outcome, after)) :
    Writing ready temporary beside (steps + 1) after ∧
      (ready.Fails steps ∧ outcome = .error .failed ∨
        ¬ready.Fails steps ∧ outcome = .ok () ∧ after.files = files) := by
  have fails : machine.Fails 0 ↔ ready.Fails steps := writing.ventured.fails_iff 0
  obtain ⟨ventured, ⟨failed, rfl, kept⟩ | ⟨passed, rfl, changed⟩⟩ := Machine.attempt_ok_cases ran
  · refine ⟨⟨writing.ventured.trans ventured, ?_, writing.led⟩, .inl ⟨fails.mp failed, rfl⟩⟩
    rw [kept]
    exact writing.joined
  · refine ⟨⟨writing.ventured.trans ventured, ?_, writing.led⟩,
      .inr ⟨fun failed => passed (fails.mpr failed), rfl, changed⟩⟩
    rw [changed]
    exact joined

/-- The file beside can be written to. -/
theorem write_eq (writing : Writing ready temporary beside steps machine) (content : Content) :
    machine.files.write machine.workingDirectory temporary content =
      .ok (machine.files.put beside (.file content)) := by
  obtain ⟨held, added⟩ := writing.joined.added
  exact write_eq_ok_iff.mpr ⟨beside, writing.leads, by simp [added], rfl⟩

/-- The file beside is removed. -/
theorem discard (writing : Writing ready temporary beside steps machine) {fault : Fault}
    (ran : (Files.discard temporary fault).run machine = (outcome, after)) :
    outcome = .error fault ∧ Cleared ready steps after := by
  obtain ⟨held, added⟩ := writing.joined.added
  have removed : machine.answer (.remove temporary) =
      (.ok (), { machine with files := machine.files.erase beside }) := by
    simp [Machine.answer, remove, writing.leads, added, Machine.settle, bind, Except.bind]
  rw [Files.discard, Action.run_bind, Action.run_query, removed] at ran
  obtain ⟨rfl, rfl⟩ := Prod.mk.inj ran
  exact ⟨rfl, writing.ventured.withFiles _, Spared.of_at?_eq writing.joined.at?_erase⟩

/-- What is given up is removed, unless it cannot be closed. -/
theorem abandon (writing : Writing ready temporary beside steps machine) {fault : Fault}
    (ran : (Files.abandon temporary fault).run machine = (outcome, after)) :
    outcome ≠ .ok () ∧
      (ready.Fails steps ∧ Writing ready temporary beside (steps + 1) after ∨
        ¬ready.Fails steps ∧ Cleared ready (steps + 1) after) := by
  rw [Files.abandon, Action.run_bind, Action.run_query] at ran
  cases closing : machine.answer (.close temporary) with
  | mk closed last =>
      obtain ⟨still, ⟨failed, rfl⟩ | ⟨passed, rfl, -⟩⟩ := writing.attempt writing.joined closing
      · rw [closing] at ran
        obtain ⟨rfl, rfl⟩ := Prod.mk.inj ran
        exact ⟨error_ne_ok, .inl ⟨failed, still⟩⟩
      · rw [closing] at ran
        obtain ⟨rfl, cleared⟩ := still.discard ran
        exact ⟨error_ne_ok, .inr ⟨passed, cleared⟩⟩

/-- Work that starts with a step that the files allow ends there if that is one that fails, and goes
on behind it otherwise. -/
theorem bind_cases (writing : Writing ready temporary beside steps machine) {files : Files}
    (joined : Joined beside ready.files files) {step : Action (Except Fault Unit)}
    (allowed : step.run machine = machine.attempt (.ok files)) {rest : ExceptT Fault Action Unit}
    (ran : (ExceptT.mk step >>= fun _ => rest).run.run machine = (outcome, after)) :
    ready.Fails steps ∧ outcome ≠ .ok () ∧ Writing ready temporary beside (steps + 1) after ∨
      ∃ middle, ¬ready.Fails steps ∧ middle.files = files ∧
        Writing ready temporary beside (steps + 1) middle ∧
          rest.run.run middle = (outcome, after) := by
  obtain ⟨failure, first, rfl⟩ | ⟨_, middle, first, ran⟩ := Action.run_bind_cases ran
  · obtain ⟨writing, ⟨failed, -⟩ | ⟨-, ended, -⟩⟩ :=
      writing.attempt joined (allowed.symm.trans first)
    · exact .inl ⟨failed, error_ne_ok, writing⟩
    · contradiction
  · obtain ⟨writing, ⟨-, ended⟩ | ⟨passed, -, changed⟩⟩ :=
      writing.attempt joined (allowed.symm.trans first)
    · contradiction
    · exact .inr ⟨middle, passed, changed, writing, ran⟩

/-- Filling the file beside takes three steps, up to the first that fails. -/
theorem fill (writing : Writing ready temporary beside 1 machine)
    (ran : (Files.fill temporary text).run.run machine = (outcome, after)) :
    outcome = .ok () ∧ ready.Passes 1 4 ∧ Writing ready temporary beside 4 after ∧
        after.files.at? beside = some (.file (.text text)) ∨
      ∃ step, 1 ≤ step ∧ step < 4 ∧ outcome ≠ .ok () ∧ ready.Passes 1 step ∧ ready.Fails step ∧
        Writing ready temporary beside (step + 1) after := by
  have write : (Action.query (.write temporary text)).run machine =
      machine.attempt (.ok (machine.files.put beside (.file (.text text)))) :=
    congrArg machine.attempt (writing.write_eq _)
  have below := writing.joined.ne_root
  have passes := ready.passes_self 1
  obtain ⟨failed, ended, writing⟩ | ⟨filled, passed, written, writing, ran⟩ :=
    writing.bind_cases (writing.joined.put _) write ran
  · exact .inr ⟨1, by omega, by omega, ended, passes, failed, writing⟩
  have passes := passes.succ passed
  obtain ⟨failed, ended, writing⟩ | ⟨flushed, passed, same, writing, ran⟩ :=
    writing.bind_cases writing.joined rfl ran
  · exact .inr ⟨2, by omega, by omega, ended, passes, failed, writing⟩
  have passes := passes.succ passed
  obtain ⟨writing, ⟨failed, rfl⟩ | ⟨passed, rfl, synchronized⟩⟩ :=
    writing.attempt writing.joined ran
  · exact .inr ⟨3, by omega, by omega, error_ne_ok, passes, failed, writing⟩
  · refine .inl ⟨rfl, passes.succ passed, writing, ?_⟩
    rw [synchronized, same, written, at?_put_self _ below]

/-- The file beside can be moved exactly to the paths that were open before. -/
theorem replace_iff (writing : Writing ready temporary beside steps machine) :
    (∃ files, machine.files.replace machine.workingDirectory temporary path = .ok files) ↔
      Lands ready path := by
  have cleared := writing.joined.at?_erase
  have still := writing.ventured.alike.workingDirectory
  constructor
  · rintro ⟨files, moved⟩
    obtain ⟨source, _, led, -, -, filled, down, written⟩ := replace_eq_ok_iff.mp moved
    obtain rfl : source = beside := Except.ok.inj (led.symm.trans writing.leads)
    obtain ⟨place, ledTarget, vacant, -⟩ := write_eq_ok_iff.mp written
    have back : Kept [] (machine.files.erase source) ready.files :=
      Kept.of_at?_eq fun place => (cleared place).symm
    rw [still] at ledTarget
    rw [cleared] at vacant
    exact ⟨place, back.resolve ledTarget, vacant, filled, down⟩
  · rintro ⟨place, led, vacant, filled, down⟩
    obtain ⟨content, added⟩ := writing.joined.added
    have erased : Kept [] ready.files (machine.files.erase beside) := Kept.of_at?_eq cleared
    have written : (machine.files.erase beside).write machine.workingDirectory path content =
        .ok ((machine.files.erase beside).put place (.file content)) := by
      refine write_eq_ok_iff.mpr ⟨place, ?_, ?_, rfl⟩
      · rw [still]
        exact erased.resolve led
      · rwa [cleared]
    refine ⟨_, replace_eq_ok_iff.mpr ⟨beside, content, writing.leads, added, ⟨place, ?_⟩, filled,
      down, written⟩⟩
    rw [still]
    exact writing.joined.kept.resolve led

/-- What was written beside a file and moved to its place is all that changes. -/
theorem replaced_of_moved (writing : Writing ready temporary beside steps machine)
    (held : machine.files.at? beside = some (.file (.text text)))
    (alike : Alike machine after)
    (moved : machine.files.replace machine.workingDirectory temporary path = .ok after.files) :
    ∃ place, Replaced place path text ready after := by
  obtain ⟨source, content, led, same, -, -, -, written⟩ := replace_eq_ok_iff.mp moved
  obtain rfl : source = beside := Except.ok.inj (led.symm.trans writing.leads)
  rw [held, Option.some.injEq, Node.file.injEq] at same
  subst same
  obtain ⟨place, ledTarget, vacant, files⟩ := write_eq_ok_iff.mp written
  have erased : Kept place ready.files (machine.files.erase source) :=
    Kept.of_at?_eq writing.joined.at?_erase
  have kept := Kept.put_file vacant (.text text)
  rw [← files] at kept
  refine ⟨place, writing.ventured.alike.trans alike, erased.trans kept, ?_, ?_⟩
  · rw [alike.workingDirectory]
    exact kept.resolve ledTarget
  · rw [files, at?_put_self _ (ne_root_of_at?_ne vacant)]

/-- Moving the file beside to the place of another is the last step. -/
theorem move (writing : Writing ready temporary beside 5 machine)
    (held : machine.files.at? beside = some (.file (.text text)))
    (ran : machine.attempt (machine.files.replace machine.workingDirectory temporary path) =
      (outcome, after)) :
    outcome = .ok () ∧ Lands ready path ∧ ¬ready.Fails 5 ∧
        (∃ place, Replaced place path text ready after) ∨
      outcome ≠ .ok () ∧ ¬(Lands ready path ∧ ¬ready.Fails 5) ∧
        Writing ready temporary beside 6 after := by
  have fails : machine.Fails 0 ↔ ready.Fails 5 := writing.ventured.fails_iff 0
  have still (ventured : Machine.Ventured 1 machine after) (same : after.files = machine.files) :
      Writing ready temporary beside 6 after :=
    ⟨writing.ventured.trans ventured, same ▸ writing.joined, writing.led⟩
  cases moved : machine.files.replace machine.workingDirectory temporary path with
  | error fault =>
      rw [moved] at ran
      obtain ⟨ventured, ended, same⟩ := Machine.attempt_error_cases ran
      refine .inr ⟨ended, fun all => ?_, still ventured same⟩
      obtain ⟨files, allowed⟩ := writing.replace_iff.mpr all.1
      rw [moved] at allowed
      contradiction
  | ok files =>
      rw [moved] at ran
      obtain ⟨ventured, ⟨failed, rfl, same⟩ | ⟨passed, rfl, changed⟩⟩ :=
        Machine.attempt_ok_cases ran
      · exact .inr ⟨error_ne_ok, fun all => all.2 (fails.mp failed), still ventured same⟩
      · have lands := writing.replace_iff.mp ⟨files, moved⟩
        rw [← changed] at moved
        exact .inl ⟨rfl, lands, fun failed => passed (fails.mpr failed),
          writing.replaced_of_moved held ventured.alike moved⟩

/-- The file beside is closed and moved, unless one of the two steps fails. -/
theorem settle (writing : Writing ready temporary beside 4 machine)
    (held : machine.files.at? beside = some (.file (.text text)))
    (ran : (Files.settle temporary path).run.run machine = (outcome, after)) :
    outcome = .ok () ∧ Lands ready path ∧ ready.Passes 4 6 ∧
        (∃ place, Replaced place path text ready after) ∨
      outcome ≠ .ok () ∧ ¬(Lands ready path ∧ ready.Passes 4 6) ∧
        ∃ steps, Writing ready temporary beside steps after := by
  obtain ⟨failed, ended, writing⟩ | ⟨closed, passed, same, writing, ran⟩ :=
    writing.bind_cases writing.joined rfl ran
  · exact .inr ⟨ended, fun all => all.2 4 (by omega) (by omega) failed, 5, writing⟩
  have passes := (ready.passes_self 4).succ passed
  rw [← same] at held
  obtain ⟨rfl, lands, moved, replaced⟩ | ⟨ended, unmoved, writing⟩ := writing.move held ran
  · exact .inl ⟨rfl, lands, passes.succ moved, replaced⟩
  · exact .inr ⟨ended, fun all => unmoved ⟨all.1, all.2 5 (by omega) (by omega)⟩, 6, writing⟩

/-- The file beside is filled and moved where no step fails. Otherwise it is gone, unless a step of
filling it fails and it cannot be closed. -/
theorem fillAndSettle (writing : Writing ready temporary beside 1 machine)
    (ran : (Files.fillAndSettle temporary path text).run machine = (outcome, after)) :
    outcome = .ok () ∧ Lands ready path ∧ ready.Passes 1 6 ∧
        (∃ place, Replaced place path text ready after) ∨
      outcome ≠ .ok () ∧ ¬(Lands ready path ∧ ready.Passes 1 6) ∧
        (¬ready.Strands 1 ∧ (∃ steps, Cleared ready steps after) ∨
          ready.Strands 1 ∧ ∃ steps, Writing ready temporary beside steps after) := by
  rw [Files.fillAndSettle, Action.run_bind] at ran
  cases filling : (Files.fill temporary text).run.run machine with
  | mk filled middle =>
      rw [filling] at ran
      obtain ⟨rfl, passes, writing, held⟩ | ⟨step, low, high, failed, passes, fails, writing⟩ :=
        writing.fill filling
      · -- The file is filled, so what fails now leaves it closed.
        have unstranded : ¬ready.Strands 1 := by
          rintro ⟨step, low, high, -, fails, -⟩
          exact passes step low high fails
        rw [Action.run_bind] at ran
        cases settling : (Files.settle temporary path).run.run middle with
        | mk settled last =>
            rw [settling] at ran
            obtain ⟨rfl, lands, more, replaced⟩ | ⟨failed, unsettled, steps, writing⟩ :=
              writing.settle held settling
            · obtain ⟨rfl, rfl⟩ := Prod.mk.inj ran
              exact .inl ⟨rfl, lands, passes.append more, replaced⟩
            · cases settled with
              | ok _ => exact absurd rfl failed
              | error fault =>
                  obtain ⟨rfl, cleared⟩ := writing.discard ran
                  exact .inr ⟨error_ne_ok, fun all => unsettled ⟨all.1, all.2.mono (by omega)⟩,
                    .inl ⟨unstranded, steps, cleared⟩⟩
      · cases filled with
        | ok _ => exact absurd rfl failed
        | error fault =>
            have unfilled : ¬(Lands ready path ∧ ready.Passes 1 6) := fun all =>
              all.2 step low (by omega) fails
            obtain ⟨ended, ⟨failedToo, writing⟩ | ⟨closed, cleared⟩⟩ := writing.abandon ran
            · exact .inr ⟨ended, unfilled,
                .inr ⟨⟨step, low, high, passes, fails, failedToo⟩, _, writing⟩⟩
            · refine .inr ⟨ended, unfilled, .inl ⟨?_, _, cleared⟩⟩
              rintro ⟨other, otherLow, -, otherPasses, otherFails, failedToo⟩
              -- Only one step is the first that fails.
              rcases Nat.lt_trichotomy step other with earlier | rfl | later
              · exact otherPasses step low earlier fails
              · exact closed failedToo
              · exact passes other otherLow later otherFails

end Writing

/-! ## Replacing -/

/-- The path of the file beside. -/
def besidePath (machine : Machine) (path : Path) : Path :=
  machine.files.freshPath machine.workingDirectory path.parent s!".{path.name}." ".tmp"

/-- The directory of a path can be made, and the file beside has a place in it. -/
structure Opens (machine : Machine) (path : Path) (ready : Machine) (beside : Place) : Prop where
  made : (makeDirectories path.parent).run machine = (.ok (), ready)
  led : ready.files.resolve ready.workingDirectory (besidePath ready path) = .ok beside

/-- The files allow that a path is given a text. -/
def Admits (machine : Machine) (path : Path) : Prop :=
  ∃ ready beside, Opens machine path ready beside ∧ Lands ready path

/-- The file beside is opened and stays there. -/
def Stranded (machine : Machine) (path : Path) : Prop :=
  (∃ ready beside, Opens machine path ready beside) ∧ machine.Strands 0

namespace Opens

variable {ready other : Machine} {beside place : Place}

theorem spared (opens : Opens machine path ready beside) : Machine.Spared machine ready := by
  have directories := Action.spares_makeDirectories path.parent machine
  rwa [opens.made] at directories

theorem unique (opens : Opens machine path ready beside) (others : Opens machine path other place) :
    other = ready :=
  (Prod.mk.inj (others.made.symm.trans opens.made)).2

theorem admits_iff (opens : Opens machine path ready beside) :
    Admits machine path ↔ Lands ready path := by
  refine ⟨?_, fun lands => ⟨ready, beside, opens, lands⟩⟩
  rintro ⟨other, place, others, lands⟩
  rwa [opens.unique others] at lands

theorem stranded_iff (opens : Opens machine path ready beside) :
    Stranded machine path ↔ ready.Strands 0 :=
  (and_iff_right ⟨ready, beside, opens⟩).trans (opens.spared.strands_iff 0).symm

end Opens

theorem at?_eq_none_of_fresh {files : Files} {start beside : Place} {directory : Path}
    {opening ending : String}
    (led : files.resolve start (files.freshPath start directory opening ending) = .ok beside) :
    files.at? beside = none := by
  cases held : files.at? beside with
  | none => rfl
  | some node =>
      exact absurd (find_eq_ok_iff.mpr ⟨beside, led, held⟩) (find_freshPath_ne_ok _ _ _ _ _ node)

/-- A file is opened beside a path in a directory that is there. -/
theorem createTemporary_cases {ready : Machine} {created : Except Fault Path}
    (ran : ready.answer (.createTemporary path.parent s!".{path.name}.") = (created, after)) :
    (∃ beside, ready.files.resolve ready.workingDirectory (besidePath ready path) = .ok beside ∧
        ¬ready.Fails 0 ∧ created = .ok (besidePath ready path) ∧
        Writing ready (besidePath ready path) beside 1 after) ∨
      (∃ fault, created = .error fault) ∧ Cleared ready 1 after ∧
        ((∃ beside, ready.files.resolve ready.workingDirectory (besidePath ready path) =
          .ok beside) →
          ready.Fails 0) := by
  change ready.createTemporary _ _ = _ at ran
  rw [Machine.createTemporary_eq] at ran
  change ((ready.attempt (ready.files.write ready.workingDirectory (besidePath ready path)
    (.text ""))).1.map fun _ => besidePath ready path, (ready.attempt (ready.files.write
      ready.workingDirectory (besidePath ready path) (.text ""))).2) = (created, after) at ran
  cases attempted : ready.attempt (ready.files.write ready.workingDirectory (besidePath ready path)
      (.text "")) with
  | mk written last =>
      rw [attempted] at ran
      cases led : ready.files.resolve ready.workingDirectory (besidePath ready path) with
      | error fault =>
          have refused :
              ready.files.write ready.workingDirectory (besidePath ready path) (.text "") =
              .error fault := by rw [write, led]; rfl
          rw [refused] at attempted
          obtain ⟨ventured, failed, files⟩ := Machine.attempt_error_cases attempted
          cases written with
          | ok _ => exact absurd rfl failed
          | error fault =>
              obtain ⟨rfl, rfl⟩ := Prod.mk.inj ran
              refine .inr ⟨⟨fault, rfl⟩, ⟨ventured, ?_⟩, by simp⟩
              rw [files]
              exact Spared.refl _
      | ok beside =>
          have free : ready.files.at? beside = none := at?_eq_none_of_fresh led
          have vacant : ready.files.at? beside ≠ some .directory := by simp [free]
          rw [write_eq_ok_iff.mpr ⟨beside, led, vacant, rfl⟩] at attempted
          obtain ⟨ventured, ⟨failed, rfl, files⟩ | ⟨passed, rfl, files⟩⟩ :=
            Machine.attempt_ok_cases attempted
          · obtain ⟨rfl, rfl⟩ := Prod.mk.inj ran
            refine .inr ⟨⟨_, rfl⟩, ⟨ventured, ?_⟩, fun _ => failed⟩
            rw [files]
            exact Spared.refl _
          · obtain ⟨rfl, rfl⟩ := Prod.mk.inj ran
            refine .inl ⟨beside, rfl, passed, rfl, ventured, ?_, led⟩
            rw [files]
            exact ⟨free, ⟨_, at?_put_self _ (ne_root_of_at?_ne vacant) _⟩,
              fun place elsewhere => at?_put_of_ne _ elsewhere _⟩

theorem Replaced.of_spared {place : Place} {middle : Machine}
    (spared : Machine.Spared machine middle)
    (replaced : Replaced place path text middle after) : Replaced place path text machine after :=
  ⟨spared.alike.trans replaced.alike, spared.files.kept.trans replaced.kept, replaced.led,
    replaced.held⟩

theorem Cleared.of_spared {ready : Machine} {steps : Nat} (spared : Machine.Spared machine ready)
    (cleared : Cleared ready steps after) : Cleared machine (0 + steps) after :=
  ⟨spared.ventured.trans cleared.ventured, spared.files.trans cleared.spared⟩

/-- Where the file beside is not opened, all files are as they were. -/
theorem refused_of_not_opens (closed : ∀ ready beside, Opens machine path ready beside →
    machine.Fails 0) :
    ¬(Admits machine path ∧ machine.Passes 0 6) ∧ ¬Stranded machine path := by
  constructor
  · rintro ⟨⟨ready, beside, opens, -⟩, passes⟩
    exact passes 0 (by omega) (by omega) (closed ready beside opens)
  · rintro ⟨⟨ready, beside, opens⟩, step, low, -, passes, -⟩
    exact passes 0 (by omega) (by omega) (closed ready beside opens)

/-- Work with a file beside a path begins when that file is opened. Where it is not, all files are
as they were. -/
theorem besideFile_cases {work : Path → Action (Except Fault Unit)}
    (ran : (besideFile path work).run machine = (outcome, after)) :
    (∃ ready beside opened, Opens machine path ready beside ∧ ¬ready.Fails 0 ∧
        Writing ready (besidePath ready path) beside 1 opened ∧
        (work (besidePath ready path)).run opened = (outcome, after)) ∨
      outcome ≠ .ok () ∧ (∀ ready beside, Opens machine path ready beside → machine.Fails 0) ∧
        ∃ steps, Cleared machine steps after := by
  rw [besideFile, Action.run_bind] at ran
  cases making : (makeDirectories path.parent).run machine with
  | mk made ready =>
      have spared : Machine.Spared machine ready := by
        have directories := Action.spares_makeDirectories path.parent machine
        rwa [making] at directories
      rw [making] at ran
      cases made with
      | error fault =>
          obtain ⟨rfl, rfl⟩ := Prod.mk.inj ran
          exact .inr ⟨error_ne_ok, fun _ _ opens => absurd (opens.made.symm.trans making) (by simp),
            0, spared.ventured, spared.files⟩
      | ok _ =>
          rw [Action.run_bind, Action.run_query] at ran
          cases creating : ready.answer (.createTemporary path.parent s!".{path.name}.") with
          | mk created opened =>
              rw [creating] at ran
              obtain ⟨beside, led, passed, rfl, writing⟩ | ⟨⟨fault, rfl⟩, cleared, unopened⟩ :=
                createTemporary_cases creating
              · exact .inl ⟨ready, beside, opened, ⟨making, led⟩, passed, writing, ran⟩
              · obtain ⟨rfl, rfl⟩ := Prod.mk.inj ran
                refine .inr ⟨error_ne_ok, fun other beside opens => ?_, _, cleared.of_spared spared⟩
                obtain rfl : ready = other := (Prod.mk.inj (making.symm.trans opens.made)).2
                exact (spared.fails_iff 0).mp (unopened ⟨beside, opens.led⟩)

/-- A file gets its text where the files allow it and no step fails. Otherwise all files are as they
were, unless the file beside is stranded. -/
theorem replaceFile_cases (ran : (replaceFile path text).run machine = (outcome, after)) :
    outcome = .ok () ∧ Admits machine path ∧ machine.Passes 0 6 ∧
        (∃ place, Replaced place path text machine after) ∨
      outcome ≠ .ok () ∧ ¬(Admits machine path ∧ machine.Passes 0 6) ∧
        (¬Stranded machine path ∧ (∃ steps, Cleared machine steps after) ∨
          Stranded machine path ∧ ∃ ready : Machine, ∃ beside, Spared machine.files ready.files ∧
            Joined beside ready.files after.files) := by
  obtain ⟨ready, beside, opened, opens, passed, writing, ran⟩ | ⟨failed, closed, steps, cleared⟩ :=
    besideFile_cases ran
  · have spared := opens.spared
    rw [opens.admits_iff, opens.stranded_iff, ← spared.passes_iff,
      Machine.passes_iff_of_not_fails passed, Machine.strands_iff_of_not_fails passed]
    obtain ⟨rfl, lands, passes, place, replaced⟩ | ⟨failed, unsettled, left⟩ :=
      writing.fillAndSettle ran
    · exact .inl ⟨rfl, lands, passes, place, replaced.of_spared spared⟩
    · refine .inr ⟨failed, unsettled, ?_⟩
      obtain ⟨unstranded, steps, cleared⟩ | ⟨strands, steps, writing⟩ := left
      · exact .inl ⟨unstranded, _, cleared.of_spared spared⟩
      · exact .inr ⟨strands, ready, beside, spared.files, writing.joined⟩
  · obtain ⟨refused, unstranded⟩ := refused_of_not_opens closed
    exact .inr ⟨failed, refused, .inl ⟨unstranded, steps, cleared⟩⟩

/-- A file that was replaced holds its text, and nothing else but directories is new. -/
theorem exists_replaced_of_replaceFile
    (ran : (replaceFile path text).run machine = (.ok (), after)) :
    ∃ place, Replaced place path text machine after := by
  obtain ⟨-, -, -, replaced⟩ | ⟨failed, -⟩ := replaceFile_cases ran
  · exact replaced
  · exact absurd rfl failed

/-- A file is given a text as a whole or not at all. It gets its text, and nothing else changes,
exactly where the files allow it and none of the six steps of writing fails. Where it does not,
every file keeps what it held, and none is new unless a step of filling the file beside is the first
to fail and that file cannot be closed either. -/
theorem replaceFile_all_or_nothing
    (ran : (replaceFile path text).run machine = (outcome, after)) :
    (outcome = .ok () ↔ Admits machine path ∧ machine.Passes 0 6) ∧
      (outcome = .ok () → ∃ place, Replaced place path text machine after) ∧
      (outcome ≠ .ok () → ∀ place content, machine.files.at? place = some (.file content) →
        after.files.at? place = some (.file content)) ∧
      (outcome ≠ .ok () → (Spared machine.files after.files ↔ ¬Stranded machine path)) := by
  obtain ⟨rfl, admits, passes, replaced⟩ | ⟨failed, refused, ⟨unstranded, steps, cleared⟩ |
    ⟨stranded, ready, beside, spared, joined⟩⟩ := replaceFile_cases ran
  · exact ⟨iff_of_true rfl ⟨admits, passes⟩, fun _ => replaced, fun failed => absurd rfl failed,
      fun failed => absurd rfl failed⟩
  · exact ⟨iff_of_false failed refused, fun ended => absurd ended failed,
      fun _ place content held => (cleared.spared.file place content).mpr held,
      fun _ => iff_of_true cleared.spared unstranded⟩
  · refine ⟨iff_of_false failed refused, fun ended => absurd ended failed,
      fun _ place content held => ?_,
      fun _ => iff_of_false (fun whole => ?_) (not_not.mpr stranded)⟩
    · have before := (spared.file place content).mpr held
      have elsewhere : place ≠ beside := by
        rintro rfl
        rw [joined.free] at before
        contradiction
      rw [joined.others place elsewhere, before]
    · obtain ⟨content, added⟩ := joined.added
      have held := (spared.file beside content).mpr ((whole.file beside content).mp added)
      rw [joined.free] at held
      contradiction

/-- A machine with a file, and the mishaps it is to meet. -/
def clientMachine (mishaps : List Bool) : Machine where
  files := ⟨[(["client"], .file (.text "previous"))]⟩
  workingDirectory := []
  environment := []
  system := "Linux"
  time := default
  input := .text ""
  reply := fun _ => .unreached ""
  mishaps := mishaps
  output := ""
  diagnostics := ""

def clientPath : Path := .ofText "client"

/-- A text that does not reach the device leaves the previous one, and nothing beside it. -/
theorem replaceFile_all_or_nothing_clientMachine :
    ∃ after, (replaceFile clientPath "next").run (clientMachine [false, false, false, true]) =
        (.error .failed, after) ∧
      Spared (clientMachine [false, false, false, true]).files after.files := by
  have ran : (replaceFile clientPath "next").run (clientMachine [false, false, false, true]) =
      (.error .failed, _) := rfl
  obtain ⟨-, -, -, whole⟩ := replaceFile_all_or_nothing ran
  have apart : ∀ step < 4, ¬((clientMachine [false, false, false, true]).Fails step ∧
      (clientMachine [false, false, false, true]).Fails (step + 1)) := by decide
  refine ⟨_, ran, (whole error_ne_ok).mpr ?_⟩
  rintro ⟨-, step, -, high, -, fails, failsToo⟩
  exact apart step high ⟨fails, failsToo⟩

/-- A file that can be neither filled nor closed stays beside the one it was to replace. -/
theorem unclosed_file_stays :
    ∃ after, (replaceFile clientPath "next").run (clientMachine [false, false, true, true]) =
        (.error .failed, after) ∧
      (clientMachine [false, false, true, true]).files.nodes.length = 1 ∧
        after.files.nodes.length = 2 :=
  ⟨_, rfl, rfl, rfl⟩

end Files

end ApiCompiler
