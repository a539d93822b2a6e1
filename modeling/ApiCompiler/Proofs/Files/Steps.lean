import ApiCompiler.Machine
import ApiCompiler.Proofs.Files.Places

/-!
# Steps on files

When a machine takes a step on its files, and what its files are then. Apart from its files and what
was written to its streams, a machine stays as it is.
-/

namespace ApiCompiler

open Outcome

namespace Files

theorem makeDirectory_eq_ok_iff {files after : Files} {start : Place} {path : Path} :
    files.makeDirectory start path = .ok after ↔
      ∃ place, files.resolve start path = .ok place ∧ files.at? place = none ∧
        after = files.put place .directory := by
  rw [makeDirectory, bind_eq_ok]
  refine exists_congr fun place => and_congr_right fun _ => ?_
  cases files.at? place <;> simp [eq_comm]

theorem write_eq_ok_iff {files after : Files} {start : Place} {path : Path} {content : Content} :
    files.write start path content = .ok after ↔
      ∃ place, files.resolve start path = .ok place ∧ files.at? place ≠ some .directory ∧
        after = files.put place (.file content) := by
  rw [write, bind_eq_ok]
  refine exists_congr fun place => and_congr_right fun _ => ?_
  rcases files.at? place with _ | ⟨_ | _⟩ <;> simp [eq_comm]

/-- A file that is moved leaves its place and is written as a whole at another, under a name. -/
theorem replace_eq_ok_iff {files after : Files} {start : Place} {source target : Path} :
    files.replace start source target = .ok after ↔
      ∃ place content, files.resolve start source = .ok place ∧
        files.at? place = some (.file content) ∧
        (∃ led, files.resolve start target = .ok led) ∧ target.name ≠ "" ∧ target.name ≠ ".." ∧
        (files.erase place).write start target content = .ok after := by
  rw [replace, bind_eq_ok]
  refine exists_congr fun place => ?_
  rcases files.at? place with _ | ⟨_ | content⟩
  · simp
  · simp
  · simp only [bind_eq_ok, Option.some.injEq, Node.file.injEq, exists_and_left, exists_eq_left']
    refine and_congr_right fun _ => ?_
    rw [← exists_and_right]
    refine exists_congr fun led => and_congr_right fun _ => ?_
    by_cases named : target.name = "" ∨ target.name = ".."
    · rw [if_pos (by simpa using named)]
      simp only [throw, throwThe, MonadExceptOf.throw, bind, Except.bind, reduceCtorEq, false_iff]
      tauto
    · rw [if_neg (by simpa using named)]
      tauto

end Files

namespace Machine

/-- Machines that answer alike to all that does not ask for their files, the time apart. -/
structure Alike (left right : Machine) : Prop where
  workingDirectory : right.workingDirectory = left.workingDirectory
  environment : right.environment = left.environment
  system : right.system = left.system
  input : right.input = left.input
  reply : right.reply = left.reply

theorem Alike.refl (machine : Machine) : Alike machine machine :=
  ⟨rfl, rfl, rfl, rfl, rfl⟩

theorem Alike.trans {first second third : Machine} (left : Alike first second)
    (right : Alike second third) : Alike first third :=
  ⟨right.workingDirectory.trans left.workingDirectory, right.environment.trans left.environment,
    right.system.trans left.system, right.input.trans left.input, right.reply.trans left.reply⟩

theorem Alike.symm {left right : Machine} (alike : Alike left right) : Alike right left :=
  ⟨alike.workingDirectory.symm, alike.environment.symm, alike.system.symm, alike.input.symm,
    alike.reply.symm⟩

variable {machine after : Machine} {step : Except Files.Fault Files}

theorem settle_eq_ok (settled : machine.settle step = (.ok (), after)) :
    step = .ok after.files ∧ Alike machine after := by
  cases step with
  | error fault => simp [settle] at settled
  | ok files =>
      simp only [settle, Prod.mk.injEq, true_and] at settled
      subst settled
      exact ⟨rfl, ⟨rfl, rfl, rfl, rfl, rfl⟩⟩

theorem settle_eq_error {fault : Files.Fault}
    (settled : machine.settle step = (.error fault, after)) :
    step = .error fault ∧ machine = after := by
  cases step with
  | ok files => simp [settle] at settled
  | error _ =>
      simp only [settle, Prod.mk.injEq, Except.error.injEq] at settled
      exact ⟨by rw [settled.1], settled.2⟩

/-- A new file is made by a step of writing. -/
theorem createTemporary_eq (machine : Machine) (directory : Files.Path) (start : String) :
    machine.createTemporary directory start =
      ((machine.attempt (machine.files.write machine.workingDirectory
          (machine.files.freshPath machine.workingDirectory directory start ".tmp")
          (.text ""))).1.map
          fun _ => machine.files.freshPath machine.workingDirectory directory start ".tmp",
        (machine.attempt (machine.files.write machine.workingDirectory
          (machine.files.freshPath machine.workingDirectory directory start ".tmp")
          (.text ""))).2) := by
  rw [createTemporary]
  generalize machine.files.freshPath machine.workingDirectory directory start ".tmp" = fresh
  generalize machine.attempt (machine.files.write machine.workingDirectory fresh (.text "")) = ended
  obtain ⟨_ | _, last⟩ := ended
  · rfl
  · rfl

end Machine

end ApiCompiler
