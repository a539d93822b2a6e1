import ApiCompiler.Document.Inlining
import ApiCompiler.Proofs.Outcome
import Mathlib.Data.List.Forall2
import Mathlib.Tactic.Common

/-!
# References that are inlined

What inlining makes of one node, kind by kind, and which references the parts of a node hold.
Everything that is said about whole documents is derived from these two.
-/

namespace ApiCompiler.Document

open Outcome

section Replaced

variable {replace : String → Value → Except Fault Value}

theorem replaceInItems_eq_mapM (items : List Value) :
    replaceInItems replace items = items.mapM (replaceReferences replace) := by
  induction items with
  | nil => rfl
  | cons item items induction => rw [replaceInItems, List.mapM_cons, induction]

theorem replaceInEntries_eq_mapM (entries : List (Value × Value)) :
    replaceInEntries replace entries =
      entries.mapM fun entry => (entry.1, ·) <$> replaceReferences replace entry.2 := by
  induction entries with
  | nil => rfl
  | cons entry entries induction =>
      rw [replaceInEntries, List.mapM_cons, induction]
      cases replaceReferences replace entry.2 <;> rfl

end Replaced

/-- What inlining puts in the place of a reference, while a list says which may still be
followed. -/
def substitute (root : Value) (followed : List String) (reference : String) (place : Value) :
    Except Fault Value :=
  if reference ∈ followed then
    target root reference >>= inlineWithin root (without reference followed)
  else .ok place

theorem inlineWithin_eq (root : Value) (followed : List String) (node : Value) :
    inlineWithin root followed node = replaceReferences (substitute root followed) node := by
  rw [inlineWithin]
  rfl

section Equations

variable {root : Value} {followed : List String}

theorem inlineWithin_list (items : List Value) :
    inlineWithin root followed (.list items) = .list <$>
      items.mapM (inlineWithin root followed) := by
  rw [funext (inlineWithin_eq root followed), replaceReferences, replaceInItems_eq_mapM]
  exact bind_pure_comp _ _

theorem inlineWithin_map_of_plain {entries : List (Value × Value)}
    (plain : reference? entries = none) :
    inlineWithin root followed (.map entries) =
      .map <$> entries.mapM fun entry => (entry.1, ·) <$> inlineWithin root followed entry.2 := by
  rw [funext (inlineWithin_eq root followed), replaceReferences, plain, replaceInEntries_eq_mapM]
  exact bind_pure_comp _ _

theorem inlineWithin_map_of_refers {entries : List (Value × Value)} {reference : String}
    (refers : reference? entries = some reference) :
    inlineWithin root followed (.map entries) =
      substitute root followed reference (.map entries) := by
  rw [inlineWithin_eq, replaceReferences, refers]

end Equations

/-- What inlining makes of a node: a reference that may be followed gives way to what its target
becomes without it, any other stays, and all else keeps its kind. -/
inductive Becomes (root : Value) (followed : List String) : Value → Value → Prop where
  | list {items results : List Value}
      (each : List.Forall₂ (fun item result => inlineWithin root followed item = .ok result)
        items results) :
      Becomes root followed (.list items) (.list results)
  | map {entries results : List (Value × Value)} (plain : reference? entries = none)
      (each : List.Forall₂ (fun entry result =>
        entry.1 = result.1 ∧ inlineWithin root followed entry.2 = .ok result.2) entries results) :
      Becomes root followed (.map entries) (.map results)
  | through {entries : List (Value × Value)} {reference : String} {next result : Value}
      (refers : reference? entries = some reference) (mentioned : reference ∈ followed)
      (found : target root reference = .ok next)
      (inlined : inlineWithin root (without reference followed) next = .ok result) :
      Becomes root followed (.map entries) result
  | kept {entries : List (Value × Value)} {reference : String}
      (refers : reference? entries = some reference) (closed : reference ∉ followed) :
      Becomes root followed (.map entries) (.map entries)
  | leaf {node : Value} (noList : ∀ items, node ≠ .list items)
      (noMap : ∀ entries, node ≠ .map entries) : Becomes root followed node node

theorem becomes_of_inlineWithin {root : Value} {followed : List String} {node result : Value}
    (inlined : inlineWithin root followed node = .ok result) :
      Becomes root followed node result := by
  cases node with
  | list items =>
      rw [inlineWithin_list, map_eq_ok] at inlined
      obtain ⟨results, each, rfl⟩ := inlined
      exact .list (mapM_eq_ok_iff_forall₂.mp each)
  | map entries =>
      cases refers : reference? entries with
      | none =>
          rw [inlineWithin_map_of_plain refers, map_eq_ok] at inlined
          obtain ⟨results, each, rfl⟩ := inlined
          refine .map refers ((mapM_eq_ok_iff_forall₂.mp each).imp fun entry result made => ?_)
          obtain ⟨value, done, rfl⟩ := map_eq_ok.mp made
          exact ⟨rfl, done⟩
      | some reference =>
          rw [inlineWithin_map_of_refers refers, substitute] at inlined
          split at inlined
          · rename_i mentioned
            obtain ⟨next, found, rest⟩ := bind_eq_ok.mp inlined
            exact .through refers mentioned found rest
          · rename_i closed
            obtain rfl := Except.ok.inj inlined
            exact .kept refers closed
  | _ =>
      rw [inlineWithin_eq] at inlined
      obtain rfl := Except.ok.inj inlined
      exact .leaf nofun nofun

theorem references_list (items : List Value) :
    references (.list items) = items.flatMap references := by
  rw [references]
  induction items with
  | nil => rfl
  | cons item items induction => rw [referencesInItems, induction, List.flatMap_cons]

theorem references_map (entries : List (Value × Value)) :
    references (.map entries) =
      (reference? entries).toList ++ entries.flatMap fun entry => references entry.2 := by
  rw [references]
  refine congrArg _ ?_
  induction entries with
  | nil => rfl
  | cons entry entries induction => rw [referencesInEntries, induction, List.flatMap_cons]

theorem references_subset_of_mem {item : Value} {items : List Value} (member : item ∈ items) :
    references item ⊆ references (.list items) := by
  rw [references_list]
  exact fun _ inside => List.mem_flatMap.mpr ⟨item, member, inside⟩

theorem references_subset_of_entry {entry : Value × Value} {entries : List (Value × Value)}
    (member : entry ∈ entries) : references entry.2 ⊆ references (.map entries) := by
  rw [references_map]
  exact fun _ inside => List.mem_append_right _ (List.mem_flatMap.mpr ⟨entry, member, inside⟩)

theorem mem_references_of_reference? {entries : List (Value × Value)} {reference : String}
    (refers : reference? entries = some reference) : reference ∈ references (.map entries) := by
  rw [references_map, refers]
  exact List.mem_append_left _ (List.mem_singleton.mpr rfl)

theorem mem_of_lookup? {entries : List (Value × Value)} {key value : Value}
    (found : Value.lookup? entries key = some value) : ∃ entry ∈ entries, entry.2 = value := by
  obtain ⟨entry, selected, rfl⟩ := Option.map_eq_some_iff.mp found
  exact ⟨entry, List.mem_of_find?_eq_some selected, rfl⟩

/-- The item that a place names is one of the list. -/
theorem mem_of_itemAt? {items : List Value} {place : Int} {item : Value}
    (found : itemAt? items place = some item) : item ∈ items := by
  unfold itemAt? at found
  split at found
  · exact List.mem_of_getElem? found
  · split at found
    · contradiction
    · exact List.mem_of_getElem? found

theorem references_subset_of_step {reference token : String} {node next : Value}
    (stepped : step reference node token = .ok next) : references next ⊆ references node := by
  unfold step at stepped
  split at stepped
  · split at stepped
    · rename_i found
      obtain rfl := Except.ok.inj stepped
      obtain ⟨entry, member, rfl⟩ := mem_of_lookup? found
      exact references_subset_of_entry member
    · contradiction
  · split at stepped
    · rename_i found
      obtain rfl := Except.ok.inj stepped
      obtain ⟨place, -, found⟩ := Option.bind_eq_some_iff.mp found
      exact references_subset_of_mem (mem_of_itemAt? found)
    · contradiction
  · contradiction

/-- What a pointer leads to is a part of the document, with no other references. -/
theorem references_subset_of_target {root next : Value} {reference : String}
    (found : target root reference = .ok next) : references next ⊆ references root := by
  have along {tokens : List String} {node : Value}
      (walked : tokens.foldlM (step reference) node = .ok next) :
      references next ⊆ references node := by
    induction tokens generalizing node with
    | nil =>
        obtain rfl := Except.ok.inj walked
        exact List.Subset.refl _
    | cons token tokens induction =>
        rw [List.foldlM_cons, bind_eq_ok] at walked
        obtain ⟨between, stepped, rest⟩ := walked
        exact List.Subset.trans (induction rest) (references_subset_of_step stepped)
  unfold target at found
  split at found
  · contradiction
  · exact along found

end ApiCompiler.Document
