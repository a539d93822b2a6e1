import ApiCompiler.Files
import ApiCompiler.Proofs.Outcome
import Mathlib.Data.List.Nodup
import Mathlib.Data.List.Perm.Subperm
import Mathlib.Tactic.Common

/-!
# Places of files

What has a place after another place is given something or is cleared, and where paths lead: along
directories only, one name at a time.

Files that grow by directories and change at one place at most are kept. Every path that led
somewhere leads there still, and unless it leads to that place, it has the same file.

Numbered names differ, so among one more of them than there are files one is free: a path that is
made up for a new file never meets an old one.
-/

namespace ApiCompiler.Files

open Outcome

@[simp] theorem at?_root (files : Files) : files.at? [] = some .directory := rfl

theorem ne_root_of_at?_ne {files : Files} {place : Place}
    (other : files.at? place ≠ some .directory) : place ≠ [] := by
  rintro rfl
  exact other (at?_root files)

theorem lookup_filter_of_ne {nodes : List (Place × Node)} {place other : Place}
    (differs : other ≠ place) :
    (nodes.filter (·.1 != place)).lookup other = nodes.lookup other := by
  induction nodes with
  | nil => rfl
  | cons entry nodes induction =>
      obtain ⟨held, node⟩ := entry
      rw [List.filter_cons]
      split
      · rw [List.lookup_cons, List.lookup_cons, induction]
      · rename_i dropped
        have passed : (other == held) = false := by
          rw [beq_eq_false_iff_ne]
          rintro rfl
          exact dropped (bne_iff_ne.mpr differs)
        rw [List.lookup_cons, passed, induction]

theorem lookup_filter_self (nodes : List (Place × Node)) (place : Place) :
    (nodes.filter (·.1 != place)).lookup place = none := by
  rw [List.lookup_eq_none_iff]
  intro entry member
  have kept := (List.mem_filter.mp member).2
  rw [bne_iff_ne] at kept
  exact bne_iff_ne.mpr kept.symm

theorem at?_erase_of_ne (files : Files) {place other : Place} (differs : other ≠ place) :
    (files.erase place).at? other = files.at? other := by
  simp only [at?, erase, lookup_filter_of_ne differs]

theorem at?_erase_self (files : Files) {place : Place} (below : place ≠ []) :
    (files.erase place).at? place = none := by
  simp only [at?, erase, lookup_filter_self, if_neg below]

theorem at?_put_of_ne (files : Files) {place other : Place}
    (differs : other ≠ place) (node : Node) :
    (files.put place node).at? other = files.at? other := by
  rw [← at?_erase_of_ne files differs]
  have passed : (other == place) = false := beq_eq_false_iff_ne.mpr differs
  simp only [at?, put, List.lookup_cons, passed]

theorem at?_put_self (files : Files) {place : Place} (below : place ≠ []) (node : Node) :
    (files.put place node).at? place = some node := by
  simp [at?, put, below]

/-- Where names lead from a place. -/
def walk (files : Files) (place : Place) (names : List String) : Except Fault Place :=
  names.foldlM files.enter place

/-- Where a path starts, below a place to start from. -/
def origin (start : Place) (path : Path) : Place :=
  if path.anchor = .here then start else []

/-- A path that may be followed at all. -/
structure Sound (path : Path) : Prop where
  noNull : path.hasNull = false
  inLimit : path.toText.utf8ByteSize ≤ pathLimit

theorem resolve_eq_ok_iff {files : Files} {start : Place} {path : Path} {place : Place} :
    files.resolve start path = .ok place ↔
      Sound path ∧ files.walk (origin start path) path.names = .ok place := by
  unfold resolve
  split
  · rename_i null
    simp only [reduceCtorEq, false_iff, not_and]
    rintro ⟨noNull, -⟩
    rw [noNull] at null
    contradiction
  · rename_i noNull
    split
    · rename_i long
      simp only [reduceCtorEq, false_iff, not_and]
      rintro ⟨-, inLimit⟩
      omega
    · rename_i inLimit
      exact ⟨fun led => ⟨⟨by simpa using noNull, by omega⟩, led⟩, And.right⟩

theorem enter_eq_ok_iff {files : Files} {place next : Place} {name : String} :
    files.enter place name = .ok next ↔
      files.at? place = some .directory ∧
        (name = ".." ∧ next = place.dropLast ∨
          name ≠ ".." ∧ name.utf8ByteSize ≤ nameLimit ∧ next = place ++ [name]) := by
  unfold enter
  split
  · rename_i directory
    by_cases up : name = ".."
    · simp [directory, up, eq_comm]
    · by_cases long : nameLimit < name.utf8ByteSize
      · have unfit : ¬ name.utf8ByteSize ≤ nameLimit := by omega
        simp [directory, up, long, unfit]
      · simp only [directory, up, long, if_false, Except.ok.injEq, true_and, false_and, false_or,
          ne_eq, not_false_eq_true]
        constructor
        · rintro rfl
          exact ⟨by omega, rfl⟩
        · exact fun led => led.2.symm
  · rename_i file
    simp [file]
  · rename_i absent
    simp [absent]

theorem walk_append {files : Files} {place : Place} {names more : List String} :
    files.walk place (names ++ more) = files.walk place names >>= fun next =>
      files.walk next more :=
  List.foldlM_append

theorem walk_child {files : Files} {place above : Place} {names : List String}
    (walked : files.walk place names = .ok above) (name : String) :
    files.walk place (names ++ [name]) = files.enter above name := by
  rw [walk_append, walked]
  change files.enter above name >>= pure = _
  cases files.enter above name <;> rfl

theorem walk_child_eq_ok_iff {files : Files} {place next : Place} {names : List String}
    {name : String} :
    files.walk place (names ++ [name]) = .ok next ↔
      ∃ above, files.walk place names = .ok above ∧ files.enter above name = .ok next := by
  rw [walk_append, bind_eq_ok]
  simp [walk]

theorem find_eq_ok_iff {files : Files} {start : Place} {path : Path} {node : Node} :
    files.find start path = .ok node ↔
      ∃ place, files.resolve start path = .ok place ∧ files.at? place = some node := by
  rw [find, bind_eq_ok]
  refine exists_congr fun place => and_congr_right fun _ => ?_
  cases files.at? place <;> simp

theorem isDirectory_eq_true_iff {files : Files} {start : Place} {path : Path} :
    files.isDirectory start path = true ↔ files.find start path = .ok .directory := by
  unfold isDirectory
  split
  · rename_i found
    simp [found]
  · rename_i other
    simpa using other

theorem isFile_eq_ok_true_iff {files : Files} {start : Place} {path : Path} :
    files.isFile start path = .ok true ↔ ∃ content,
      files.find start path = .ok (.file content) := by
  unfold isFile
  split
  · rename_i content found
    simp [found]
  · rename_i found
    simp [found]
  · rename_i other _
    simp only [Except.ok.injEq, Bool.false_eq_true, false_iff, not_exists]
    exact fun content found => other content found

/-- Later files hold the directories of earlier ones and, apart from one place, the same files. -/
structure Kept (apart : Place) (before after : Files) : Prop where
  directory : ∀ place, before.at? place = some .directory → after.at? place = some .directory
  file : ∀ place content, place ≠ apart →
    (after.at? place = some (.file content) ↔ before.at? place = some (.file content))

namespace Kept

variable {apart place : Place} {before after last : Files} {start : Place} {path : Path}

theorem refl (files : Files) : Kept apart files files :=
  ⟨fun _ => id, fun _ _ _ => Iff.rfl⟩

theorem trans (first : Kept apart before after) (second : Kept apart after last) :
    Kept apart before last where
  directory place held := second.directory place (first.directory place held)
  file place content elsewhere :=
    (second.file place content elsewhere).trans (first.file place content elsewhere)

theorem of_at?_eq (same : ∀ place, after.at? place = before.at? place) : Kept apart before after :=
  ⟨fun place held => (same place).trans held, fun place _ _ => by rw [same place]⟩

/-- A directory where nothing was. -/
theorem put_directory (free : before.at? place = none) :
    Kept apart before (before.put place .directory) := by
  have vacant : before.at? place ≠ some .directory := by simp [free]
  have below := ne_root_of_at?_ne vacant
  constructor
  · intro other held
    by_cases same : other = place
    · rw [same, at?_put_self before below]
    · rw [at?_put_of_ne before same, held]
  · intro other content _
    by_cases same : other = place
    · rw [same, at?_put_self before below, free]
      simp
    · rw [at?_put_of_ne before same]

/-- A file at the place that may change. -/
theorem put_file (other : before.at? place ≠ some .directory) (content : Content) :
    Kept place before (before.put place (.file content)) := by
  constructor
  · intro held directory
    have differs : held ≠ place := by
      rintro rfl
      exact other directory
    rw [at?_put_of_ne before differs, directory]
  · intro held _ elsewhere
    rw [at?_put_of_ne before elsewhere]

theorem enter {next : Place} {name : String} (kept : Kept apart before after)
    (led : before.enter place name = .ok next) : after.enter place name = .ok next := by
  rw [enter_eq_ok_iff] at led ⊢
  exact ⟨kept.directory place led.1, led.2⟩

theorem walk {names : List String} (kept : Kept apart before after)
    (led : before.walk start names = .ok place) : after.walk start names = .ok place := by
  induction names generalizing start with
  | nil => exact led
  | cons name names induction =>
      rw [Files.walk, List.foldlM_cons, bind_eq_ok] at led ⊢
      obtain ⟨next, entered, led⟩ := led
      exact ⟨next, kept.enter entered, induction led⟩

theorem resolve (kept : Kept apart before after) (led : before.resolve start path = .ok place) :
    after.resolve start path = .ok place := by
  rw [resolve_eq_ok_iff] at led ⊢
  exact ⟨led.1, kept.walk led.2⟩

theorem find_directory (kept : Kept apart before after)
    (found : before.find start path = .ok .directory) :
    after.find start path = .ok .directory := by
  rw [find_eq_ok_iff] at found ⊢
  obtain ⟨place, led, held⟩ := found
  exact ⟨place, kept.resolve led, kept.directory place held⟩

theorem find_file {content : Content} (kept : Kept apart before after)
    (elsewhere : after.resolve start path ≠ .ok apart)
    (found : before.find start path = .ok (.file content)) :
    after.find start path = .ok (.file content) := by
  rw [find_eq_ok_iff] at found ⊢
  obtain ⟨place, led, held⟩ := found
  have later := kept.resolve led
  have differs : place ≠ apart := by
    rintro rfl
    exact elsewhere later
  exact ⟨place, later, (kept.file place content differs).mpr held⟩

/-- A file that is there and reads as a text still does. -/
theorem read {text : String} (kept : Kept apart before after)
    (elsewhere : after.resolve start path ≠ .ok apart)
    (known : before.read start path = .ok text) : after.read start path = .ok text := by
  rw [Files.read, bind_eq_ok] at known ⊢
  obtain ⟨node, found, held⟩ := known
  cases node with
  | directory => contradiction
  | file content => exact ⟨_, kept.find_file elsewhere found, held⟩

/-- Where a name leads in a directory that is there does not depend on what comes later. -/
theorem resolve_child (kept : Kept apart before after)
    (directory : before.find start path = .ok .directory) (name : String) :
    after.resolve start (path.child name) = before.resolve start (path.child name) := by
  obtain ⟨place, led, held⟩ := find_eq_ok_iff.mp directory
  have walked := (resolve_eq_ok_iff.mp led).2
  have entered : after.enter place name = before.enter place name := by
    simp only [Files.enter, held, kept.directory place held]
  have early := walk_child walked name
  have late := (walk_child (kept.walk walked) name).trans entered
  simp only [Files.resolve]
  change (if _ then _ else if _ then _ else
    after.walk (origin start path) (path.names ++ [name])) = if _ then _ else if _ then _ else
    before.walk (origin start path) (path.names ++ [name])
  rw [early, late]

/-- Whether a directory that is there has a file of some name does not depend on what comes
later. -/
theorem isFile_child {name : String} (kept : Kept apart before after)
    (directory : before.find start path = .ok .directory)
    (elsewhere : after.resolve start (path.child name) ≠ .ok apart) :
    after.isFile start (path.child name) = before.isFile start (path.child name) := by
  have same := kept.resolve_child directory name
  rw [same] at elsewhere
  simp only [isFile, find, same]
  cases led : before.resolve start (path.child name) with
  | error fault => rfl
  | ok place =>
      have differs : place ≠ apart := fun same => elsewhere (same ▸ led)
      have files (content : Content) := kept.file place content differs
      cases held : before.at? place with
      | none =>
          cases later : after.at? place with
          | none => simp [bind, Except.bind, held, later]
          | some node =>
              cases node with
              | directory => simp [bind, Except.bind, held, later]
              | file content => simp [held, later] at files
      | some node =>
          cases node with
          | directory => simp [bind, Except.bind, held, kept.directory place held]
          | file content => simp [bind, Except.bind, held, (files content).mpr held]

end Kept

theorem ofDigitChars_markOf (number : Nat) :
    Nat.ofDigitChars 10 (markOf number).toList 0 = number := by
  simp [markOf, Nat.ofDigitChars_append, Nat.ofDigitChars_ten_toDigits]

theorem markOf_injective : Function.Injective markOf := by
  intro left right same
  rw [← ofDigitChars_markOf left, same, ofDigitChars_markOf]

theorem length_markOf_ge (number : Nat) : 8 ≤ (markOf number).toList.length := by
  simp only [markOf, String.toList_ofList, List.length_append, List.length_replicate]
  omega

/-- The name of a number, between a start and an ending. -/
def numbered (opening ending : String) (number : Nat) : String :=
  opening ++ markOf number ++ ending

theorem numbered_injective (opening ending : String) :
    Function.Injective (numbered opening ending) := by
  intro left right same
  apply markOf_injective
  have texts := congrArg String.toList same
  simp only [numbered, String.toList_append, List.append_assoc] at texts
  exact String.toList_injective (List.append_cancel_right (List.append_cancel_left texts))

theorem numbered_ne_up (opening ending : String) (number : Nat) :
    numbered opening ending number ≠ ".." := by
  intro same
  have lengths := congrArg (fun name : String => name.toList.length) same
  have long := length_markOf_ge number
  simp only [numbered, String.toList_append, List.length_append] at lengths
  have short : "..".toList.length = 2 := by decide
  omega

theorem mem_map_fst_of_at? {files : Files} {place : Place} {node : Node} (below : place ≠ [])
    (held : files.at? place = some node) : place ∈ files.nodes.map (·.1) := by
  rw [at?, if_neg below, List.lookup_eq_some_iff] at held
  obtain ⟨earlier, later, split, -⟩ := held
  simp [split]

/-- A found path of a number leads to a place of its own below the directory. -/
theorem exists_place_of_find_numbered {files : Files} {start : Place} {directory : Path}
    {opening ending : String} {number : Nat} {node : Node}
    (found : files.find start (directory.child (numbered opening ending number)) = .ok node) :
    ∃ above, files.walk (origin start directory) directory.names = .ok above ∧
      above ++ [numbered opening ending number] ∈ files.nodes.map (·.1) := by
  obtain ⟨place, led, held⟩ := find_eq_ok_iff.mp found
  obtain ⟨-, whole⟩ := resolve_eq_ok_iff.mp led
  obtain ⟨above, walked, entered⟩ := walk_child_eq_ok_iff.mp whole
  rcases enter_eq_ok_iff.mp entered with ⟨-, ⟨up, -⟩ | ⟨-, -, rfl⟩⟩
  · exact absurd up (numbered_ne_up opening ending number)
  · exact ⟨above, walked, mem_map_fst_of_at? (by simp) held⟩

/-- Not all of one more numbered names than there are files are taken. -/
theorem exists_number_absent (files : Files) (start : Place) (directory : Path)
    (opening ending : String) :
    ∃ number < files.nodes.length + 1, ∀ node,
      files.find start (directory.child (numbered opening ending number)) ≠ .ok node := by
  by_contra taken
  push Not at taken
  obtain ⟨_, first⟩ := taken 0 (Nat.succ_pos _)
  obtain ⟨above, walked, -⟩ := exists_place_of_find_numbered first
  let places := (List.range (files.nodes.length + 1)).map fun number =>
    above ++ [numbered opening ending number]
  have distinct : places.Nodup := by
    refine List.Nodup.map ?_ List.nodup_range
    intro left right same
    exact numbered_injective opening ending (by simpa using same)
  have among : places ⊆ files.nodes.map (·.1) := by
    intro place member
    obtain ⟨number, small, rfl⟩ := List.mem_map.mp member
    obtain ⟨_, found⟩ := taken number (List.mem_range.mp small)
    obtain ⟨other, walkedToo, held⟩ := exists_place_of_find_numbered found
    rw [walked, Except.ok.injEq] at walkedToo
    rwa [walkedToo]
  have bounded := (List.subperm_of_subset distinct among).length_le
  rw [List.length_map, List.length_map, List.length_range] at bounded
  omega

/-- Nothing has a path that is made up. -/
theorem find_freshPath_ne_ok (files : Files) (start : Place) (directory : Path)
    (opening ending : String) (node : Node) :
    files.find start (files.freshPath start directory opening ending) ≠ .ok node := by
  obtain ⟨number, small, absent⟩ := exists_number_absent files start directory opening ending
  unfold freshPath
  lift_lets
  intro path isFree
  cases found : ((List.range (files.nodes.length + 1)).map path).find? isFree with
  | some free =>
      intro taken
      rw [Option.getD_some] at taken
      have tested := List.find?_some found
      simp [isFree, taken] at tested
  | none =>
      have taken := List.find?_eq_none.mp found (path number)
        (List.mem_map_of_mem (List.mem_range.mpr small))
      cases held : files.find start (path number) with
      | ok node => exact absurd held (absent node)
      | error fault => simp [isFree, held] at taken

end ApiCompiler.Files
