import ApiCompiler.Document.Source
import ApiCompiler.Proofs.Repetition

/-!
# Reading documents again

Reading a document changes nothing, and a document that was read is read again later.
-/

namespace ApiCompiler.Document

open Files (Kept Place)
open Machine (Alike)

variable {apart : Place} {machine after : Machine}

/-- A document that is read on a machine, and again on every later one. -/
structure ReadAgain (apart : Place) (reading : Action (Except Failure Document)) (machine : Machine)
    (document : Document) (after : Machine) : Prop where
  after_eq : after = machine
  again : ∀ later, Alike machine later → Kept apart machine.files later.files →
    (∀ path ∈ reading.looked machine,
      later.files.resolve later.workingDirectory path ≠ .ok apart) →
    reading.run later = (.ok document, later)

theorem readAgain_ofInput {document : Document}
    (ran : ofInput.run machine = (.ok document, after)) :
    ReadAgain apart ofInput machine document after := by
  have run_eq (other : Machine) : ofInput.run other =
      (ofHanded .unknown .noInput .unreadInput other.input.read, other) := rfl
  rw [run_eq, Prod.mk.injEq] at ran
  obtain ⟨outcome, rfl⟩ := ran
  refine ⟨rfl, fun later alike _ _ => ?_⟩
  rw [run_eq, alike.input, outcome]

theorem readAgain_ofAddress {address : String} {document : Document}
    (ran : (ofAddress address).run machine = (.ok document, after)) :
    ReadAgain apart (ofAddress address) machine document after := by
  unfold ofAddress at ran
  cases checked : checkAddress address with
  | error failure =>
      rw [checked] at ran
      have outcome : Except.error failure = .ok document := (Prod.mk.inj ran).1
      contradiction
  | ok _ =>
      have run_eq (other : Machine) : (ofAddress address).run other =
          (ofReply address (other.reply address), other) := by
        rw [ofAddress, checked]
        rfl
      rw [checked] at ran
      obtain ⟨outcome, rfl⟩ := Prod.mk.inj ran
      refine ⟨rfl, fun later alike _ _ => ?_⟩
      rw [run_eq, alike.reply]
      exact Prod.ext outcome rfl

/-- What comes of reading a file, by what the machine answers. -/
theorem ofFile_run (name : String) (machine : Machine) :
    (ofFile name).run machine =
      (match machine.files.isFile machine.workingDirectory (.ofText name) with
        | .error fault => .error (.files fault)
        | .ok false => .error (.document (.noFile name))
        | .ok true =>
          ofHanded (expectedBySuffix (Files.Path.ofText name).suffix) (.emptyFile name)
            (.unreadFile name) (machine.files.read machine.workingDirectory (.ofText name)),
        machine) := by
  have asked : machine.answer (.isFile (.ofText name)) =
      (machine.files.isFile machine.workingDirectory (.ofText name), machine) := rfl
  rw [ofFile, Action.run_bind, Action.run_query, asked]
  rcases machine.files.isFile machine.workingDirectory (.ofText name) with fault | _ | _ <;> rfl

theorem mem_looked_ofFile (name : String) (machine : Machine) :
    Files.Path.ofText name ∈ (ofFile name).looked machine :=
  List.mem_append_left _ List.mem_cons_self

/-- A file that was read is there and reads as it did. -/
theorem readAgain_ofFile {name : String} {document : Document}
    (ran : (ofFile name).run machine = (.ok document, after)) :
    ReadAgain apart (ofFile name) machine document after := by
  rw [ofFile_run, Prod.mk.injEq] at ran
  obtain ⟨outcome, rfl⟩ := ran
  refine ⟨rfl, fun later alike kept avoids => ?_⟩
  have elsewhere := avoids _ (mem_looked_ofFile name machine)
  rw [ofFile_run, alike.workingDirectory]
  rw [alike.workingDirectory] at elsewhere
  cases present : machine.files.isFile machine.workingDirectory (.ofText name) with
  | error fault => simp [present] at outcome
  | ok there =>
      cases there with
      | false => simp [present] at outcome
      | true =>
          obtain ⟨content, found⟩ := Files.isFile_eq_ok_true_iff.mp present
          have again := kept.find_file elsewhere found
          rw [Files.isFile_eq_ok_true_iff.mpr ⟨content, again⟩]
          rw [present] at outcome
          rw [Files.read, found] at outcome
          rw [Files.read, again]
          exact congrArg (Prod.mk · later) outcome

theorem noted_run (notice : Notice) (reading : Action (Except Failure Document))
    (machine : Machine) :
    (noted notice reading).run machine =
      (⟨[notice], (reading.run machine).1⟩, (reading.run machine).2) := by
  rw [noted, Action.run_bind]
  rfl

/-- A document that was loaded is loaded again. -/
theorem load_cases (source : String) :
    ∃ notice reading, load source = noted notice reading ∧
      ∀ {apart machine after document}, reading.run machine = (.ok document, after) →
        ReadAgain apart reading machine document after := by
  unfold load
  split
  · exact ⟨_, _, rfl, readAgain_ofInput⟩
  · split
    · exact ⟨_, _, rfl, readAgain_ofAddress⟩
    · exact ⟨_, _, rfl, readAgain_ofFile⟩

open Work in
/-- A document that was loaded can be loaded again. -/
theorem repeats_load {source : String} {loaded : Logged Document} {document : Document}
    (fine : loaded.result = .ok document)
    (ran : (ExceptT.lift (load source) : Work _).run.run machine = (.ok loaded, after)) :
    Repeats apart (ExceptT.lift (load source)) machine loaded after := by
  obtain ⟨notice, reading, load_eq, readAgain⟩ := load_cases source
  have run_eq (other : Machine) : (ExceptT.lift (load source) : Work _).run.run other =
      (.ok ⟨[notice], (reading.run other).1⟩, (reading.run other).2) := by
    rw [run_lift, load_eq, noted_run]
  rw [run_eq, Prod.mk.injEq, Except.ok.injEq] at ran
  obtain ⟨rfl, rfl⟩ := ran
  have reads : reading.run machine = (.ok document, (reading.run machine).2) := by
    rw [← fine]
  obtain ⟨unmoved, again⟩ : ReadAgain apart reading machine document _ := readAgain reads
  have looked : ∀ path ∈ reading.looked machine,
      path ∈ (ExceptT.lift (load source) : Work _).run.looked machine := by
    intro path member
    change path ∈ (load source >>= fun loaded => Action.done (Except.ok loaded)).looked machine
    rw [Action.looked_bind, load_eq, noted, Action.looked_bind]
    exact List.mem_append_left _ (List.mem_append_left _ member)
  rw [unmoved]
  refine ⟨Alike.refl machine, Kept.refl machine.files, fun later alike kept avoids => ?_⟩
  have rereads := again later alike kept fun path member => avoids path (looked path member)
  refine ⟨later, ?_, rfl, Alike.refl later⟩
  rw [run_eq, rereads, reads]

end ApiCompiler.Document
