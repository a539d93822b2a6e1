import ApiCompiler.Files.Replacement
import ApiCompiler.Proofs.Action
import ApiCompiler.Proofs.Files.Places
import ApiCompiler.Proofs.Files.Steps

/-!
# Replaced files

Directories that were made are there, all other files are kept, and making them once more changes
nothing. A file that was replaced holds its text, and no other file is touched.
-/

namespace ApiCompiler.Files

open Machine (Alike)

variable {apart : Place} {machine after : Machine} {path : Path}

/-- A directory is there, and nothing but directories is new. -/
structure Made (apart : Place) (path : Path) (machine after : Machine) : Prop where
  alike : Alike machine after
  kept : Kept apart machine.files after.files
  found : after.files.find after.workingDirectory path = .ok .directory

theorem made_of_makeDirectory
    (made : machine.answer (.makeDirectory path) = (.ok (), after)) :
    Made apart path machine after := by
  obtain ⟨step, alike⟩ := Machine.settle_eq_ok made
  obtain ⟨place, led, free, files_eq⟩ := makeDirectory_eq_ok_iff.mp step
  have kept : Kept apart machine.files after.files := by
    rw [files_eq]
    exact Kept.put_directory free
  have vacant : machine.files.at? place ≠ some .directory := by simp [free]
  refine ⟨alike, kept, find_eq_ok_iff.mpr ⟨place, ?_, ?_⟩⟩
  · rw [alike.workingDirectory]
    exact kept.resolve led
  · rw [files_eq, at?_put_self _ (ne_root_of_at?_ne vacant)]

theorem made_of_acceptPresent {fault : Fault}
    (accepted : (acceptPresent path fault).run machine = (.ok (), after)) :
    Made apart path machine after := by
  rw [acceptPresent, Action.run_bind, Action.run_query] at accepted
  split at accepted
  · rename_i present
    simp only [Action.run_pure, Prod.mk.injEq, true_and] at accepted
    subst accepted
    exact ⟨Alike.refl machine, Kept.refl machine.files, isDirectory_eq_true_iff.mp present⟩
  · simp at accepted

theorem made_of_makeLast (made : (makeLast path).run machine = (.ok (), after)) :
    Made apart path machine after := by
  rw [makeLast, Action.run_bind, Action.run_query] at made
  cases answered : machine.answer (.makeDirectory path) with
  | mk outcome last =>
      rw [answered] at made
      cases outcome with
      | ok _ =>
          simp only [Action.run_pure, Prod.mk.injEq, true_and] at made
          subst made
          exact made_of_makeDirectory answered
      | error fault =>
          obtain ⟨-, rfl⟩ := Machine.settle_eq_error answered
          cases fault with
          | absent => simp at made
          | _ => exact made_of_acceptPresent made

theorem Made.after_alike {path below : Path} {middle : Machine}
    (above : Made apart below machine middle) (made : Made apart path middle after) :
    Made apart path machine after :=
  ⟨above.alike.trans made.alike, above.kept.trans made.kept, made.found⟩

/-- Each directory is made in the one above it, which is made first where it is missing. -/
theorem made_of_makeAlong {anchor : Anchor} {names : List String}
    (made : (makeAlong anchor names).run machine = (.ok (), after)) :
    Made apart ⟨anchor, names.reverse⟩ machine after := by
  induction names generalizing after with
  | nil => exact made_of_makeLast made
  | cons name above induction =>
      rw [makeAlong, Action.run_bind, Action.run_query] at made
      cases answered : machine.answer (.makeDirectory ⟨anchor, (name :: above).reverse⟩) with
      | mk outcome last =>
          rw [answered] at made
          cases outcome with
          | ok _ =>
              simp only [Action.run_pure, Prod.mk.injEq, true_and] at made
              subst made
              exact made_of_makeDirectory answered
          | error fault =>
              obtain ⟨-, rfl⟩ := Machine.settle_eq_error answered
              cases fault with
              | absent =>
                  simp only [Action.run_bind] at made
                  cases led : (makeAlong anchor above).run machine with
                  | mk outcome middle =>
                      rw [led] at made
                      cases outcome with
                      | ok _ => exact (induction led).after_alike (made_of_makeLast made)
                      | error fault => simp at made
              | _ => exact made_of_acceptPresent made

/-- Directories that were made are there. -/
theorem made_of_makeDirectories (made : (makeDirectories path).run machine = (.ok (), after)) :
    Made apart path machine after := by
  have along : Made apart ⟨path.anchor, path.names.reverse.reverse⟩ machine after :=
    made_of_makeAlong made
  simpa using along

/-- Directories that are there are not made again. -/
theorem makeDirectories_run_of_found
    (found : machine.files.find machine.workingDirectory path = .ok .directory) :
    (makeDirectories path).run machine = (.ok (), machine) := by
  obtain ⟨place, led, held⟩ := find_eq_ok_iff.mp found
  have taken : machine.answer (.makeDirectory path) = (.error .taken, machine) := by
    simp [Machine.answer, makeDirectory, led, held, Machine.settle, bind, Except.bind]
  have present : (acceptPresent path .taken).run machine = (.ok (), machine) := by
    rw [acceptPresent, Action.run_bind, Action.run_query]
    simp [Machine.answer, isDirectory_eq_true_iff.mpr found]
  obtain ⟨anchor, names⟩ := path
  rw [makeDirectories]
  cases reversed : names.reverse with
  | nil =>
      obtain rfl : names = [] := by simpa using reversed
      rw [makeAlong, makeLast, Action.run_bind, Action.run_query]
      erw [taken]
      exact present
  | cons name above =>
      obtain rfl : names = (name :: above).reverse := by
        rw [← reversed, List.reverse_reverse]
      rw [makeAlong, Action.run_bind, Action.run_query]
      erw [taken]
      exact present

/-- A file at a place holds a text, and all other files are as they were. -/
structure Replaced (place : Place) (path : Path) (text : String)
    (machine after : Machine) : Prop where
  alike : Alike machine after
  kept : Kept place machine.files after.files
  led : after.files.resolve after.workingDirectory path = .ok place
  held : after.files.at? place = some (.file (.text text))

end ApiCompiler.Files
