import ApiCompiler.Proofs.Document.Needed
import Mathlib.Logic.Relation

/-!
# Documents without cycles

A document in which no reference leads back to itself is flat once it is inlined: no reference is
left in it, so inlining it again changes nothing. Only what stands in a tuple is never looked at,
and so it stays.
-/

namespace ApiCompiler.Document

open Outcome Relation

/-- No reference leads back to itself, neither by its own target nor by those of the references on
the way. -/
def Acyclic (root : Value) : Prop :=
  ∀ reference, ¬TransGen (PointsTo root) reference reference

theorem mem_references_of_transGen {root : Value} {reference last : String}
    (leads : TransGen (PointsTo root) reference last) : last ∈ references root := by
  cases leads with
  | single points => exact mem_references_of_pointsTo points
  | tail _ points => exact mem_references_of_pointsTo points

/-- A document has no cycle if its references only point at references of a lower rank. -/
theorem acyclic_of_rank_lt {root : Value} (rank : String → Nat)
    (falls : ∀ reference ∈ references root, ∀ next, PointsTo root reference next →
      rank next < rank reference) : Acyclic root := by
  have lower {reference last : String} (leads : TransGen (PointsTo root) reference last)
      (member : reference ∈ references root) : rank last < rank reference := by
    induction leads with
    | single points => exact falls reference member _ points
    | tail before points induction =>
        exact Nat.lt_trans (falls _ (mem_references_of_transGen before) _ points) induction
  exact fun reference cycle => Nat.lt_irrefl _ (lower cycle (mem_references_of_transGen cycle))

/-- Inlining leaves a node without references as it is. -/
theorem inlineWithin_eq_self {root node : Value} {followed : List String}
    (flat : references node = []) : inlineWithin root followed node = .ok node := by
  induction node using wellFounded_holds.induction with
  | h node smaller =>
      have parts {part : Value} (held : Holds node part) :
          inlineWithin root followed part = .ok part :=
        smaller part held (List.subset_nil.mp (flat ▸ references_subset_of_holds held))
      cases node with
      | list items =>
          have each : items.mapM (inlineWithin root followed) = .ok items :=
            mapM_eq_ok_iff_forall₂.mpr (List.forall₂_same.mpr fun item member =>
              parts (.item member))
          rw [inlineWithin_list, each]
          rfl
      | map entries =>
          rw [references_map, List.append_eq_nil_iff, Option.toList_eq_nil_iff] at flat
          have each :
              (entries.mapM fun entry => (entry.1, ·) <$> inlineWithin root followed entry.2) =
              .ok entries := by
            refine mapM_eq_ok_iff_forall₂.mpr (List.forall₂_same.mpr fun entry member => ?_)
            rw [parts (.value member)]
            rfl
          rw [inlineWithin_map_of_plain flat.1, each]
          rfl
      | _ => rw [inlineWithin_eq]; rfl

section Inlined

variable {root : Value} (textless : Textless root) (acyclic : Acyclic root)

include textless acyclic

/-- The references that are being followed all lead to the node that is inlined. None of them stands
in it again, so each reference there gives way, and nothing in their places is a reference. -/
theorem references_eq_nil_of_inlined {followed : List String} {node result : Value}
    (inlined : Inlined root followed node result)
    (leading : ∀ reference ∈ references root, reference ∉ followed →
      ∀ exposed, Exposes node exposed → TransGen (PointsTo root) reference exposed) :
    references result = [] := by
  induction followed, node using inlining_induction generalizing result with
  | step followed node smaller behind =>
      have parts {part made : Value} (plain : referenceOf? node = none) (held : Holds node part)
          (becomes : inlineWithin root followed part = .ok made) : references made = [] :=
        smaller part held ⟨List.Subset.trans (references_subset_of_holds held) inlined.within,
          becomes⟩
          fun reference member closed exposed reached =>
            leading reference member closed exposed (.inside plain held reached)
      cases becomes_of_inlineWithin inlined.becomes with
      | list each =>
          rw [references_list, List.flatMap_eq_nil_iff]
          intro made member
          obtain ⟨item, held, becomes⟩ := exists_mem_of_forall₂ each made member
          exact parts rfl (.item held) becomes
      | map plain each =>
          rw [references_map, List.append_eq_nil_iff, Option.toList_eq_nil_iff,
            List.flatMap_eq_nil_iff]
          refine ⟨referenceOf?_of_inlined textless inlined plain, fun made member => ?_⟩
          obtain ⟨entry, held, -, becomes⟩ := exists_mem_of_forall₂ each made member
          exact parts plain (.value held) becomes
      | @through entries reference next _ refers mentioned found rest =>
          refine behind reference mentioned next ⟨references_subset_of_target found, rest⟩
            fun other member closed exposed reached => ?_
          by_cases same : other = reference
          · exact .single ⟨next, same ▸ found, reached⟩
          · have earlier : other ∉ followed := fun open_ =>
              closed (mem_without_iff.mpr ⟨open_, same⟩)
            exact (leading other member earlier reference (.itself refers)).tail
              ⟨next, found, reached⟩
      | @kept entries reference refers closed =>
          have member := inlined.within (mem_references_of_reference? refers)
          exact absurd (leading reference member closed reference (.itself refers))
            (acyclic reference)
      | leaf noList noMap =>
          cases node with
          | list items => exact absurd rfl (noList items)
          | map entries => exact absurd rfl (noMap entries)
          | _ => rfl

end Inlined

/-- The direct parts of a node of any kind: those that inlining comes to, and the components of
tuples. Keys of mappings and members of sets are no mappings, and hold none. -/
inductive Comprises : Value → Value → Prop where
  | held {node part : Value} (held : Holds node part) : Comprises node part
  | component {items : List Value} {item : Value}
    (member : item ∈ items) : Comprises (.tuple items) item

theorem references_eq_nil_of_reflTransGen {node part : Value} (flat : references node = [])
    (reached : ReflTransGen Holds node part) : references part = [] := by
  induction reached with
  | refl => exact flat
  | tail _ held induction =>
      exact List.subset_nil.mp (induction ▸ references_subset_of_holds held)

theorem referenceOf?_eq_none {node : Value} (flat : references node = []) :
    referenceOf? node = none := by
  cases refers : referenceOf? node with
  | none => rfl
  | some reference => exact absurd (flat ▸ mem_references_of_referenceOf? refers) List.not_mem_nil

/-- A part at any depth is come to, or it stands in a tuple that is come to. -/
theorem reflTransGen_holds_or_tuple {node part : Value}
    (reached : ReflTransGen Comprises node part) :
    ReflTransGen Holds node part ∨
      ∃ items, ReflTransGen Holds node (.tuple items) ∧ TransGen Comprises (.tuple items) part := by
  induction reached with
  | refl => exact .inl .refl
  | tail _ step induction =>
      rcases induction with open_ | ⟨items, tuple, within⟩
      · cases step with
        | held held => exact .inl (open_.tail held)
        | component member => exact .inr ⟨_, open_, .single (.component member)⟩
      · exact .inr ⟨items, tuple, within.tail step⟩

/-- Where no reference leads back to itself and none points at a bare text, an inlined document has
no reference at any depth, except inside tuples, and inlining it again changes nothing. -/
theorem flat_of_acyclic {document flat : Value} (inlined : inline document = .ok flat)
    (acyclic : Acyclic document) (textless : Textless document) :
    (∀ part reference, ReflTransGen Comprises flat part → referenceOf? part = some reference →
      ∃ items, ReflTransGen Holds flat (.tuple items) ∧ TransGen Comprises (.tuple items) part) ∧
      inline flat = .ok flat := by
  have none_left : references flat = [] :=
    references_eq_nil_of_inlined textless acyclic
      ⟨List.Subset.refl _, mapError_eq_ok.mp inlined⟩ fun _ member closed => absurd member closed
  refine ⟨fun part reference reached refers => ?_,
    mapError_eq_ok.mpr (inlineWithin_eq_self none_left)⟩
  rcases reflTransGen_holds_or_tuple reached with open_ | hidden
  · have plain := referenceOf?_eq_none (references_eq_nil_of_reflTransGen none_left open_)
    exact absurd (plain.symm.trans refers) nofun
  · exact hidden

def idSchema : Value := .map [(.str "type", .str "integer")]

def petSchema : Value := .map [(.str "id", .map [(.str "$ref", .str "#/Id")])]

/-- Two references to one schema, which refers to another. -/
def petDocument : Value :=
  .map [(.str "Id", idSchema), (.str "Pet", petSchema),
    (.str "first", .map [(.str "$ref", .str "#/Pet")]),
    (.str "second", .map [(.str "$ref", .str "#/Pet")])]

theorem flat_of_acyclic_petDocument :
    ∃ flat, inline petDocument = .ok flat ∧ Acyclic petDocument ∧ Textless petDocument ∧
      (∀ part reference, ReflTransGen Comprises flat part → referenceOf? part = some reference →
        ∃ items, ReflTransGen Holds flat (.tuple items) ∧ TransGen Comprises (.tuple items) part) ∧
      inline flat = .ok flat := by
  obtain ⟨flat, inlined⟩ : ∃ flat, inline petDocument = .ok flat :=
    exists_eq_ok_of_isSome (by decide +kernel)
  have held : references petDocument = ["#/Id", "#/Pet", "#/Pet"] := by decide
  have idFound : target petDocument "#/Id" = .ok idSchema := rfl
  have petFound : target petDocument "#/Pet" = .ok petSchema := rfl
  have either {reference : String} (member : reference ∈ references petDocument) :
      reference = "#/Id" ∨ reference = "#/Pet" := by simpa [held] using member
  have acyclic : Acyclic petDocument := by
    refine acyclic_of_rank_lt (fun reference => if reference = "#/Pet" then 1 else 0) ?_
    rintro reference member next ⟨node, found, exposed⟩
    have inside := mem_references_of_exposes exposed
    rcases either member with rfl | rfl
    · obtain rfl := Except.ok.inj (idFound.symm.trans found)
      exact absurd inside List.not_mem_nil
    · obtain rfl := Except.ok.inj (petFound.symm.trans found)
      have lower : next = "#/Id" := List.mem_singleton.mp inside
      rw [lower]
      decide
  have textless : Textless petDocument := by
    intro reference member text found
    rcases either member with rfl | rfl
    · exact absurd (idFound.symm.trans found) nofun
    · exact absurd (petFound.symm.trans found) nofun
  exact ⟨flat, inlined, acyclic, textless, flat_of_acyclic inlined acyclic textless⟩

/-- A reference in a pair. -/
def pairDocument : Value :=
  .map [(.str "a", .list [.tuple [.str "k", .map [(.str "$ref", .str "#/b")]]]), (.str "b", .int 1)]

/-- No reference of this document leads back to itself, none points at a text, and it is inlined.
But the reference in the tuple is still there. -/
theorem reference_in_tuple_stays :
    Acyclic pairDocument ∧ Textless pairDocument ∧ inline pairDocument = .ok pairDocument ∧
      ∃ part, ReflTransGen Comprises pairDocument part ∧ referenceOf? part = some "#/b" := by
  have unseen : references pairDocument = [] := by decide
  refine ⟨fun reference cycle => ?_, fun reference member => ?_, ?_, ?_⟩
  · exact absurd (unseen ▸ mem_references_of_transGen cycle) List.not_mem_nil
  · exact absurd (unseen ▸ member) List.not_mem_nil
  · exact mapError_eq_ok.mpr (inlineWithin_eq_self unseen)
  · refine ⟨.map [(.str "$ref", .str "#/b")], ?_, rfl⟩
    have row :
        Comprises pairDocument (.list [.tuple [.str "k", .map [(.str "$ref", .str "#/b")]]]) :=
      .held (.value List.mem_cons_self)
    have pair : Comprises (.list [.tuple [.str "k", .map [(.str "$ref", .str "#/b")]]])
        (.tuple [.str "k", .map [(.str "$ref", .str "#/b")]]) := .held (.item List.mem_cons_self)
    exact ((ReflTransGen.single row).tail pair).tail
      (.component (List.mem_cons_of_mem _ List.mem_cons_self))

end ApiCompiler.Document
