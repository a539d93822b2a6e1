import ApiCompiler.Proofs.Document.Walks
import Mathlib.Order.WellFounded

/-!
# References that a document needs

Inlining comes to the references that stand outermost in a document, to those outermost in their
targets, and so on. It fails exactly where one of them leads nowhere: no such reference hides behind
one that stays in place because it is being followed already, and one that is never come to does no
harm.
-/

namespace ApiCompiler.Document

open Outcome

/-- The direct parts of a node: the items of a list, and the values of a mapping. -/
inductive Holds : Value → Value → Prop where
  | item {items : List Value} {item : Value} (member : item ∈ items) : Holds (.list items) item
  | value {entries : List (Value × Value)} {entry : Value × Value} (member : entry ∈ entries) :
      Holds (.map entries) entry.2

/-- A reference that is come to in a node by going from part to part. What stands beside a
reference, in the same mapping, is never come to. -/
inductive Exposes : Value → String → Prop where
  | itself {node : Value} {reference : String} (refers : referenceOf? node = some reference) :
      Exposes node reference
  | inside {node part : Value} {reference : String} (plain : referenceOf? node = none)
      (held : Holds node part) (exposed : Exposes part reference) : Exposes node reference

/-- The target of one reference exposes another. -/
def PointsTo (root : Value) (reference next : String) : Prop :=
  ∃ node, target root reference = .ok node ∧ Exposes node next

/-- The references that a document needs: those that it exposes, and those that the targets of
needed references expose. -/
inductive Needs (root : Value) : String → Prop where
  | outermost {reference : String} (exposed : Exposes root reference) : Needs root reference
  | behind {reference next : String} (needed : Needs root reference)
      (points : PointsTo root reference next) : Needs root next

theorem sizeOf_lt_of_holds {node part : Value} (held : Holds node part) :
    sizeOf part < sizeOf node := by
  cases held with
  | item member =>
      have smaller := List.sizeOf_lt_of_mem member
      rw [Value.list.sizeOf_spec]
      omega
  | @value entries entry member =>
      obtain ⟨key, value⟩ := entry
      have smaller := List.sizeOf_lt_of_mem member
      rw [Prod.mk.sizeOf_spec] at smaller
      rw [Value.map.sizeOf_spec]
      change sizeOf value < _
      omega

theorem wellFounded_holds : WellFounded fun part node => Holds node part :=
  Subrelation.wf sizeOf_lt_of_holds (measure sizeOf).wf

/-- An induction along inlining, from the parts of a node, and from whatever is gone on with once a
reference has been followed. -/
theorem inlining_induction {motive : List String → Value → Prop}
    (step : ∀ followed node, (∀ part, Holds node part → motive followed part) →
      (∀ reference ∈ followed, ∀ next, motive (without reference followed) next) →
        motive followed node) (followed : List String) (node : Value) : motive followed node := by
  induction length : followed.length using Nat.strongRecOn generalizing followed node with
  | ind count shorter =>
      induction node using wellFounded_holds.induction with
      | h node smaller =>
          refine step followed node smaller fun reference mentioned next => ?_
          exact shorter _ (length ▸ length_without_lt mentioned) _ next rfl

theorem references_subset_of_holds {node part : Value} (held : Holds node part) :
    references part ⊆ references node := by
  cases held with
  | item member => exact references_subset_of_mem member
  | value member => exact references_subset_of_entry member

theorem mem_references_of_referenceOf? {node : Value} {reference : String}
    (refers : referenceOf? node = some reference) : reference ∈ references node := by
  cases node with
  | map entries => exact mem_references_of_reference? refers
  | _ => cases refers

theorem mem_references_of_exposes {node : Value} {reference : String}
    (exposed : Exposes node reference) : reference ∈ references node := by
  induction exposed with
  | itself refers => exact mem_references_of_referenceOf? refers
  | inside _ held _ induction => exact references_subset_of_holds held induction

theorem mem_references_of_pointsTo {root : Value} {reference next : String}
    (points : PointsTo root reference next) : next ∈ references root := by
  obtain ⟨node, found, exposed⟩ := points
  exact references_subset_of_target found (mem_references_of_exposes exposed)

section Failing

variable {root node : Value} {followed : List String} {fault : Fault}

/-- A node that is no reference fails at one of its parts; a reference fails at its target, or at
what its target becomes. -/
theorem cases_of_inlineWithin_eq_error (failed : inlineWithin root followed node = .error fault) :
    (referenceOf? node = none ∧
        ∃ part, Holds node part ∧ inlineWithin root followed part = .error fault) ∨
      ∃ reference, referenceOf? node = some reference ∧ reference ∈ followed ∧
        (target root reference = .error fault ∨
          ∃ next, target root reference = .ok next ∧
            inlineWithin root (without reference followed) next = .error fault) := by
  cases node with
  | list items =>
      rw [inlineWithin_list, map_eq_error] at failed
      obtain ⟨item, member, failed⟩ := exists_mem_of_mapM_eq_error failed
      exact .inl ⟨rfl, item, .item member, failed⟩
  | map entries =>
      cases refers : reference? entries with
      | none =>
          rw [inlineWithin_map_of_plain refers, map_eq_error] at failed
          obtain ⟨entry, member, failed⟩ := exists_mem_of_mapM_eq_error failed
          exact .inl ⟨refers, entry.2, .value member, map_eq_error.mp failed⟩
      | some reference =>
          rw [inlineWithin_map_of_refers refers, substitute] at failed
          split at failed
          · rename_i mentioned
            exact .inr ⟨reference, refers, mentioned, bind_eq_error.mp failed⟩
          · cases failed
  | _ =>
      rw [inlineWithin_eq] at failed
      cases failed

/-- Inlining only fails at a reference that is come to, and with the fault of its target. -/
theorem exists_needs_of_inlineWithin_eq_error
    (failed : inlineWithin root followed node = .error fault)
    (needed : ∀ reference, Exposes node reference → Needs root reference) :
    ∃ reference, Needs root reference ∧ target root reference = .error fault := by
  induction followed, node using inlining_induction with
  | step followed node parts behind =>
      rcases cases_of_inlineWithin_eq_error failed with
        ⟨plain, part, held, failed⟩ | ⟨reference, refers, mentioned,
          unfound | ⟨next, found, failed⟩⟩
      · exact parts part held failed fun reference exposed =>
          needed reference (.inside plain held exposed)
      · exact ⟨reference, needed reference (.itself refers), unfound⟩
      · have pointed : Needs root reference := needed reference (.itself refers)
        exact behind reference mentioned next failed fun other exposed =>
          pointed.behind ⟨next, found, exposed⟩

end Failing

section Succeeding

variable {root node result : Value} {followed : List String}

/-- A part of what can be inlined can be inlined. -/
theorem exists_inlineWithin_of_holds {part : Value}
    (inlined : inlineWithin root followed node = .ok result) (plain : referenceOf? node = none)
    (held : Holds node part) : ∃ made, inlineWithin root followed part = .ok made := by
  cases held with
  | item member =>
      rw [inlineWithin_list] at inlined
      exact exists_mapM_iff.mp (exists_map_iff.mp ⟨result, inlined⟩) part member
  | value member =>
      rw [inlineWithin_map_of_plain plain] at inlined
      exact exists_map_iff.mp (exists_mapM_iff.mp (exists_map_iff.mp ⟨result, inlined⟩) _ member)

/-- Where inlining comes to a reference that it may follow, it finds a target, and inlines that. -/
theorem exists_target_of_exposes {reference : String}
    (inlined : inlineWithin root followed node = .ok result) (exposed : Exposes node reference)
    (mentioned : reference ∈ followed) :
    ∃ next made, target root reference = .ok next ∧
      inlineWithin root (without reference followed) next = .ok made := by
  induction exposed generalizing result with
  | @itself node reference refers =>
      cases node with
      | map entries =>
          rw [inlineWithin_map_of_refers refers, substitute, if_pos mentioned] at inlined
          obtain ⟨next, found, done⟩ := bind_eq_ok.mp inlined
          exact ⟨next, result, found, done⟩
      | _ => cases refers
  | inside plain held _ induction =>
      obtain ⟨made, done⟩ := exists_inlineWithin_of_holds inlined plain held
      exact induction done mentioned

/-- References of a list that are come to from a node, one through the target of the other. -/
inductive Reaches (root : Value) (followed : List String) : Value → String → Prop where
  | here {node : Value} {reference : String} (exposed : Exposes node reference)
      (mentioned : reference ∈ followed) : Reaches root followed node reference
  | through {node next : Value} {between reference : String} (exposed : Exposes node between)
      (mentioned : between ∈ followed) (found : target root between = .ok next)
      (rest : Reaches root followed next reference) : Reaches root followed node reference

theorem mem_without_iff {reference other : String} :
    other ∈ without reference followed ↔ other ∈ followed ∧ other ≠ reference := by
  simp [without]

/-- What is reached at all is reached without passing through a given reference, unless it is that
one or lies behind its target. -/
theorem reaches_without_or (avoided : String) {reference : String}
    (reached : Reaches root followed node reference) :
    Reaches root (without avoided followed) node reference ∨ reference = avoided ∨
      ∃ next, target root avoided = .ok next ∧
        Reaches root (without avoided followed) next reference := by
  induction reached with
  | @here node reference exposed mentioned =>
      by_cases same : reference = avoided
      · exact .inr (.inl same)
      · exact .inl (.here exposed (mem_without_iff.mpr ⟨mentioned, same⟩))
  | @through node next between reference exposed mentioned found _ induction =>
      rcases induction with avoiding | later
      · by_cases same : between = avoided
        · exact .inr (.inr ⟨next, same ▸ found, avoiding⟩)
        · exact .inl (.through exposed (mem_without_iff.mpr ⟨mentioned, same⟩) found avoiding)
      · exact .inr later

/-- No reference that leads nowhere hides behind one that is being followed: a way that comes to a
reference a second time can be cut short there. -/
theorem exists_target_of_reaches {reference : String}
    (inlined : inlineWithin root followed node = .ok result)
    (reached : Reaches root followed node reference) :
    ∃ next, target root reference = .ok next := by
  induction followed, node using inlining_induction generalizing result with
  | step followed node _ behind =>
      cases reached with
      | here exposed mentioned =>
          obtain ⟨next, -, found, -⟩ := exists_target_of_exposes inlined exposed mentioned
          exact ⟨next, found⟩
      | @through _ next between _ exposed mentioned found rest =>
          obtain ⟨_, made, again, done⟩ := exists_target_of_exposes inlined exposed mentioned
          obtain rfl := Except.ok.inj (found.symm.trans again)
          rcases reaches_without_or between rest with avoiding | rfl | ⟨_, same, avoiding⟩
          · exact behind between mentioned next done avoiding
          · exact ⟨next, found⟩
          · obtain rfl := Except.ok.inj (found.symm.trans same)
            exact behind between mentioned next done avoiding

theorem reaches_of_pointsTo {reference next : String}
    (reached : Reaches root followed node reference) (points : PointsTo root reference next)
    (mentioned : next ∈ followed) : Reaches root followed node next := by
  induction reached with
  | here exposed first =>
      obtain ⟨_, found, further⟩ := points
      exact .through exposed first found (.here further mentioned)
  | through exposed first found _ induction =>
      exact .through exposed first found (induction points)

theorem reaches_of_needs {reference : String} (needed : Needs root reference) :
    Reaches root (references root) root reference := by
  induction needed with
  | outermost exposed => exact .here exposed (mem_references_of_exposes exposed)
  | behind _ points induction =>
      exact reaches_of_pointsTo induction points (mem_references_of_pointsTo points)

end Succeeding

/-- The start of references into the same document. -/
def ownStart : List Char := ['#', '/']

/-- A reference that does not start as one into the same document, or that leads to no node of
it. -/
def Lost (root : Value) (reference : String) : Prop :=
  ¬ownStart <+: reference.toList ∨ ∀ node, target root reference ≠ .ok node

theorem target_of_foreign {root : Value} {reference : String}
    (foreign : ¬ownStart <+: reference.toList) :
    target root reference = .error (.externalReference reference) := by
  have untold : tokens? reference = none := by
    unfold tokens?
    split
    · rename_i pointer cut
      exact absurd (cut ▸ List.prefix_append ownStart pointer) foreign
    · rfl
  rw [target, untold]

theorem lost_iff {root : Value} {reference : String} :
    Lost root reference ↔ ∀ node, target root reference ≠ .ok node := by
  refine or_iff_right_of_imp fun foreign node => ?_
  rw [target_of_foreign foreign]
  exact error_ne_ok

/-- Inlining fails with the fault of a reference that is needed. -/
theorem exists_needs_of_inline_eq_error {document : Value} {failure : Failure}
    (failed : inline document = .error failure) :
    ∃ reference fault, Needs document reference ∧ target document reference = .error fault ∧
      failure = .document fault := by
  obtain ⟨fault, stopped, rfl⟩ := mapError_eq_error.mp failed
  obtain ⟨reference, needed, unfound⟩ :=
    exists_needs_of_inlineWithin_eq_error stopped fun _ => .outermost
  exact ⟨reference, fault, needed, unfound, rfl⟩

/-- What a document needs has a target, once it is inlined. -/
theorem exists_target_of_needs {document flat : Value} {reference : String}
    (inlined : inline document = .ok flat) (needed : Needs document reference) :
    ∃ node, target document reference = .ok node :=
  exists_target_of_reaches (mapError_eq_ok.mp inlined) (reaches_of_needs needed)

/-- A document fails to be inlined exactly where it needs a reference that is lost. The fault is
that of such a reference, there is no other failure, and where no needed reference is lost the
document is inlined. -/
theorem inline_fails_iff_needs_lost (document : Value) :
    ((∃ fault, inline document = .error (.document fault)) ↔
        ∃ reference, Needs document reference ∧ Lost document reference) ∧
      (∀ failure, inline document = .error failure → ∃ reference fault, Needs document reference ∧
        target document reference = .error fault ∧ failure = .document fault) ∧
      ((∃ flat, inline document = .ok flat) ↔
        ∀ reference, Needs document reference → ¬Lost document reference) := by
  have stops : (∃ fault, inline document = .error (.document fault)) →
      ∃ reference, Needs document reference ∧ Lost document reference := by
    rintro ⟨_, failed⟩
    obtain ⟨reference, fault, needed, unfound, -⟩ := exists_needs_of_inline_eq_error failed
    refine ⟨reference, needed, lost_iff.mpr fun node found => ?_⟩
    exact error_ne_ok (unfound.symm.trans found)
  have passes : (∃ flat, inline document = .ok flat) →
      ∀ reference, Needs document reference → ¬Lost document reference := by
    rintro ⟨flat, inlined⟩ reference needed lost
    obtain ⟨node, found⟩ := exists_target_of_needs inlined needed
    exact lost_iff.mp lost node found
  cases outcome : inline document with
  | ok flat =>
      have kept := passes ⟨flat, outcome⟩
      refine ⟨⟨nofun, fun ⟨reference, needed, lost⟩ =>
        absurd lost (kept reference needed)⟩, nofun, ?_⟩
      exact ⟨fun _ => kept, fun _ => ⟨flat, rfl⟩⟩
  | error failure =>
      obtain ⟨reference, fault, needed, unfound, rfl⟩ := exists_needs_of_inline_eq_error outcome
      have found := stops ⟨fault, outcome⟩
      refine ⟨⟨fun _ => found, fun _ => ⟨fault, rfl⟩⟩, fun failure same => ?_,
        nofun, fun kept => ?_⟩
      · exact ⟨reference, fault, needed, unfound, (Except.error.inj same).symm⟩
      · obtain ⟨reference, needed, lost⟩ := found
        exact absurd lost (kept reference needed)

end ApiCompiler.Document
