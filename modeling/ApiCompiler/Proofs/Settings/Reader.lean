import ApiCompiler.Proofs.Repetition
import ApiCompiler.Settings.Reader

/-!
# Reading settings again

What the settings of a run come to is found again later, and a target that is given for a run is
never overridden.
-/

namespace ApiCompiler.Settings

open Work

variable {apart : Files.Place} {machine after : Machine}

theorem repeatable_homeDirectory : Repeatable apart homeDirectory machine := by
  refine (repeatable_environment "HOME").bind fun home _ _ _ => ?_
  dsimp only
  split
  · exact repeatable_pure _
  · split
    · exact repeatable_throw _
    · exact repeatable_pure _

theorem repeatable_namedDirectory (name : String) (below : List String) :
    Repeatable apart (namedDirectory name below) machine := by
  refine (repeatable_environment name).bind fun named _ _ _ => ?_
  dsimp only
  split
  · exact repeatable_homeDirectory.bind fun _ _ _ _ => repeatable_pure _
  · exact repeatable_pure _

theorem repeatable_made (path : Files.Path) : Repeatable apart (made path) machine :=
  (repeatable_makeDirectories path).bind fun _ _ _ _ => repeatable_pure _

theorem repeatable_configDirectory : Repeatable apart configDirectory machine := by
  refine repeatable_system.bind fun system _ _ _ => ?_
  split
  · exact (repeatable_namedDirectory _ _).bind fun _ _ _ _ => repeatable_made _
  · exact repeatable_homeDirectory.bind fun _ _ _ _ => repeatable_made _

theorem found_of_made {path given : Files.Path}
    (ran : (made path).run.run machine = (.ok given, after)) :
    after.files.find after.workingDirectory given = .ok .directory := by
  obtain ⟨_, middle, making, ran⟩ := Action.run_bind_eq_ok_iff.mp ran
  obtain ⟨rfl, rfl⟩ := Action.run_pure_eq_ok_iff.mp ran
  have made : Files.Made [] given machine after :=
    Files.made_of_makeDirectories (onFiles_eq_ok_iff.mp making)
  exact made.found

/-- The directory of the user's settings is there once it is asked for. -/
theorem found_of_configDirectory {path : Files.Path}
    (ran : configDirectory.run.run machine = (.ok path, after)) :
    after.files.find after.workingDirectory path = .ok .directory := by
  obtain ⟨system, middle, -, ran⟩ := Action.run_bind_eq_ok_iff.mp ran
  split at ran
  · obtain ⟨_, _, -, ran⟩ := Action.run_bind_eq_ok_iff.mp ran
    exact found_of_made ran
  · obtain ⟨_, _, -, ran⟩ := Action.run_bind_eq_ok_iff.mp ran
    exact found_of_made ran

/-- What a file of settings holds, in a directory that is there. -/
theorem repeatable_readFile? (owner : Owner) {path : Files.Path}
    (directory : machine.files.find machine.workingDirectory path = .ok .directory)
    (name : String) : Repeatable apart (readFile? owner (path.child name)) machine := by
  refine (repeatable_isFile_child directory name).bind fun present after ran _ => ?_
  cases present with
  | false => exact repeatable_pure _
  | true =>
      have asked := onFiles_eq_ok_iff.mp ran
      obtain ⟨present, rfl⟩ := Prod.mk.inj asked
      refine (repeatable_read present).bind fun content _ _ _ => ?_
      cases content with
      | error fault => cases fault <;> exact repeatable_throw _
      | ok text =>
          dsimp only
          split
          · exact repeatable_pure _
          · exact repeatable_throw _

theorem repeatable_readUser : Repeatable apart readUser machine := by
  refine repeatable_configDirectory.bind fun path after ran _ => ?_
  refine (repeatable_readFile? .user (found_of_configDirectory ran) _).bind fun found _ _ _ => ?_
  cases found with
  | none => exact repeatable_pure _
  | some value =>
      dsimp only
      split
      · exact repeatable_pure _
      · exact repeatable_throw _

/-- What the project says, where the working directory is there. -/
theorem repeatable_readProject
    (standing : machine.files.find machine.workingDirectory ⟨.root, machine.workingDirectory⟩ =
      .ok .directory) : Repeatable apart readProject machine := by
  refine repeatable_workingDirectory.bind fun path after ran repeats => ?_
  obtain ⟨asked, rfl⟩ := Prod.mk.inj ran
  obtain rfl := Except.ok.inj asked
  refine (repeatable_readFile? .project standing _).bind fun found _ _ _ => ?_
  rcases found with _ | value
  · exact repeatable_pure _
  · cases value with
    | map entries => exact repeatable_pure _
    | _ => exact repeatable_throw _

theorem repeatable_readEnvironment : Repeatable apart readEnvironment machine :=
  (repeatable_environment _).bind fun _ _ _ _ =>
    (repeatable_environment _).bind fun _ _ _ _ =>
      (repeatable_environment _).bind fun _ _ _ _ => repeatable_pure _

/-- What all settings come to, where the working directory is there. -/
theorem repeatable_effective (given : Generation)
    (standing : machine.files.find machine.workingDirectory ⟨.root, machine.workingDirectory⟩ =
      .ok .directory) : Repeatable apart (effective given) machine := by
  refine repeatable_readUser.bind fun user after ran repeats => ?_
  have still : after.files.find after.workingDirectory ⟨.root, after.workingDirectory⟩ =
      .ok .directory := by
    rw [repeats.alike.workingDirectory]
    exact repeats.kept.find_directory standing
  exact (repeatable_readProject still).bind fun _ _ _ _ =>
    (repeatable_ofResult _).bind fun _ _ _ _ =>
      repeatable_readEnvironment.bind fun _ _ _ _ => repeatable_pure _

/-- A target that is given is the target. -/
theorem output_of_effective {given : Generation} {settings : Settings} {target : String}
    (named : given.output = some target)
    (ran : (effective given).run.run machine = (.ok settings, after)) :
    settings.generation.output = some target := by
  simp only [effective, Action.run_bind_eq_ok_iff, Action.run_pure_eq_ok_iff] at ran
  obtain ⟨_, _, -, _, _, -, _, _, -, _, _, -, rfl, -⟩ := ran
  simp only [layer, named, choose_given]

end ApiCompiler.Settings
