import ApiCompiler.Proofs.Document.References
import ApiCompiler.Proofs.Value.Entries

/-!
# Walks through documents

A walk goes from node to node by keys and places and follows each reference on its way. Inlining
keeps what every walk comes to see: at each reference it either has put the node where the walk
would go, or it has left the reference for the walk to follow.
-/

namespace ApiCompiler.Document

/-- One move from a node into one of its parts. -/
inductive Move where
  | key (name : Value)
  | place (index : Nat)

/-- The part of a node that a move goes to. -/
def Move.part? : Move → Value → Option Value
  | .key name, .map entries => Value.lookup? entries name
  | .place index, .list items => items[index]?
  | _, _ => none

/-- The reference that a node is. -/
def referenceOf? : Value → Option String
  | .map entries => reference? entries
  | _ => none

/-- One reference after another, each leads from a node to the next, and the last to a node that is
no reference. From references that only lead back to themselves this comes nowhere. -/
inductive Settles (root : Value) : Value → Value → Prop where
  | here {node : Value} (plain : referenceOf? node = none) : Settles root node node
  | through {node next last : Value} {reference : String}
      (refers : referenceOf? node = some reference) (found : target root reference = .ok next)
      (rest : Settles root next last) : Settles root node last

/-- The moves of a walk lead from one node to another; references are followed before each move and
at the end, always from the root of one document. -/
inductive Leads (root : Value) : Value → List Move → Value → Prop where
  | stay {node last : Value} (settled : Settles root node last) : Leads root node [] last
  | onward {node stop next last : Value} {move : Move} {moves : List Move}
      (settled : Settles root node stop) (part : move.part? stop = some next)
      (rest : Leads root next moves last) : Leads root node (move :: moves) last

/-- What can be seen of a node without going on: a value without parts, the keys of a mapping, or
the length of a list. -/
inductive Outline where
  | leaf (value : Value)
  | keys (keys : List Value)
  | length (count : Nat)

def outline : Value → Outline
  | .map entries => .keys (entries.map (·.1))
  | .list items => .length items.length
  | node => .leaf node

theorem settles_unique {root node first second : Value} (settled : Settles root node first)
    (other : Settles root node second) : first = second := by
  induction settled with
  | here plain =>
      cases other with
      | here => rfl
      | through refers => simp [plain] at refers
  | through refers found _ induction =>
      cases other with
      | here plain => simp [refers] at plain
      | through refers' found' rest =>
          obtain rfl := Option.some.inj (refers.symm.trans refers')
          obtain rfl := Except.ok.inj (found.symm.trans found')
          exact induction rest

theorem plain_of_settles {root node last : Value} (settled : Settles root node last) :
    referenceOf? last = none := by
  induction settled with
  | here plain => exact plain
  | through _ _ _ induction => exact induction

/-- Entries under the same keys, and their values related, are found alike. -/
theorem rel_lookup?_of_forall₂ {relation : Value → Value → Prop}
    {entries results : List (Value × Value)}
    (each : List.Forall₂ (fun entry result => entry.1 = result.1 ∧ relation entry.2 result.2)
      entries results) (name : Value) :
    Option.Rel relation (Value.lookup? entries name) (Value.lookup? results name) := by
  induction each with
  | nil => exact .none
  | @cons entry result entries results first _ induction =>
      obtain ⟨same, related⟩ := first
      by_cases found : Value.sameKey entry.1 name = true
      · simpa [Value.lookup?, found, ← same] using Option.Rel.some related
      · simpa [Value.lookup?, found, ← same] using induction

theorem rel_getElem?_of_forall₂ {relation : Value → Value → Prop} {items results : List Value}
    (each : List.Forall₂ relation items results) (index : Nat) :
    Option.Rel relation items[index]? results[index]? := by
  induction each generalizing index with
  | nil => exact .none
  | cons first _ induction =>
      cases index with
      | zero => exact .some first
      | succ index => exact induction index

/-- A node of a document, and what inlining makes of it. -/
structure Inlined (root : Value) (followed : List String) (node result : Value) : Prop where
  within : references node ⊆ references root
  becomes : inlineWithin root followed node = .ok result

/-- No reference of a document points at a bare text. -/
def Textless (root : Value) : Prop :=
  ∀ reference ∈ references root, ∀ text, target root reference ≠ .ok (.str text)

section Inlined

variable {root : Value} {followed : List String} {node result : Value}

/-- A reference of such a document never gives way to a text. -/
theorem eq_text_of_inlined (textless : Textless root) {text : String}
    (inlined : Inlined root followed node (.str text)) : node = .str text := by
  -- The induction is on how many references may still be followed: each one that is leaves the
  -- list.
  induction length : followed.length using Nat.strongRecOn generalizing followed node with
  | ind count induction =>
      cases becomes_of_inlineWithin inlined.becomes with
      | through refers mentioned found rest =>
          have next_eq := induction _ (length ▸ length_without_lt mentioned)
            ⟨references_subset_of_target found, rest⟩ rfl
          have held := inlined.within (mem_references_of_reference? refers)
          exact absurd (next_eq ▸ found) (textless _ held text)
      | leaf => rfl

theorem forall₂_inlined_items {items results : List Value}
    (within : references (.list items) ⊆ references root)
    (each : List.Forall₂ (fun item result => inlineWithin root followed item = .ok result)
      items results) : List.Forall₂ (Inlined root followed) items results := by
  refine ((List.forall₂_and_left _ _).mpr ⟨fun item member => ?_, each⟩).imp fun _ _ both =>
    ⟨both.1, both.2⟩
  exact List.Subset.trans (references_subset_of_mem member) within

theorem forall₂_inlined_entries {entries results : List (Value × Value)}
    (within : references (.map entries) ⊆ references root)
    (each : List.Forall₂ (fun entry result =>
      entry.1 = result.1 ∧ inlineWithin root followed entry.2 = .ok result.2) entries results) :
    List.Forall₂ (fun entry result => entry.1 = result.1 ∧ Inlined root followed entry.2 result.2)
      entries results := by
  refine ((List.forall₂_and_left _ _).mpr ⟨fun entry member => ?_, each⟩).imp fun _ _ both =>
    ⟨both.2.1, both.1, both.2.2⟩
  exact List.Subset.trans (references_subset_of_entry member) within

/-- What is no reference does not become one. -/
theorem referenceOf?_of_inlined (textless : Textless root)
    (inlined : Inlined root followed node result) (plain : referenceOf? node = none) :
    referenceOf? result = none := by
  cases becomes_of_inlineWithin inlined.becomes with
  | list => rfl
  | @map entries results _ each =>
      have alike := rel_lookup?_of_forall₂ (forall₂_inlined_entries inlined.within each)
        (.str "$ref")
      simp only [referenceOf?, reference?, Value.field?, Option.bind_eq_none_iff] at plain ⊢
      intro value found
      rw [found] at alike
      cases old : Value.lookup? entries (.str "$ref") with
      | none =>
          rw [old] at alike
          cases alike
      | some given =>
          rw [old] at alike
          obtain ⟨related⟩ := alike
          have untold := plain given old
          cases value with
          | str text =>
              rw [eq_text_of_inlined textless related] at untold
              contradiction
          | _ => rfl
  | through refers => simp [referenceOf?, refers] at plain
  | kept => exact plain
  | leaf => exact plain

theorem outline_of_inlined (inlined : Inlined root followed node result)
    (plain : referenceOf? node = none) : outline result = outline node := by
  cases becomes_of_inlineWithin inlined.becomes with
  | list each => simp [outline, each.length_eq]
  | @map entries results _ each =>
      have keys : List.Forall₂ Eq (entries.map (·.1)) (results.map (·.1)) := by
        rw [List.forall₂_map_left_iff, List.forall₂_map_right_iff]
        exact each.imp fun _ _ both => both.1
      rw [List.forall₂_eq_eq_eq] at keys
      rw [outline, outline, keys]
  | through refers => simp [referenceOf?, refers] at plain
  | kept => rfl
  | leaf => rfl

/-- A move goes from both to parts of which one is made from the other, or from neither. -/
theorem rel_part?_of_inlined (inlined : Inlined root followed node result)
    (plain : referenceOf? node = none) (move : Move) :
    Option.Rel (Inlined root followed) (move.part? node) (move.part? result) := by
  cases becomes_of_inlineWithin inlined.becomes with
  | list each =>
      cases move with
      | key name => exact .none
      | place index =>
          exact rel_getElem?_of_forall₂ (forall₂_inlined_items inlined.within each) index
  | map _ each =>
      cases move with
      | key name =>
          exact rel_lookup?_of_forall₂ (forall₂_inlined_entries inlined.within each) name
      | place index => exact .none
  | through refers => simp [referenceOf?, refers] at plain
  | kept refers => simp [referenceOf?, refers] at plain
  | leaf noList noMap =>
      have apart : move.part? node = none := by
        unfold Move.part?
        split
        · exact absurd rfl (noMap _)
        · exact absurd rfl (noList _)
        · rfl
      rw [apart]
      exact .none

end Inlined

/-- A node of an inlined document stands for one of the document itself: the same one, or the one
that it was made from. -/
inductive StandsFor (root : Value) : Value → Value → Prop where
  | itself {node : Value} : StandsFor root node node
  | made {followed : List String} {node result : Value}
      (inlined : Inlined root followed node result) : StandsFor root result node

section Walks

variable {root : Value} (textless : Textless root)

include textless

/-- Where references lead from a node, they lead to its like from what stands for it. -/
theorem exists_settles_of_standsFor {node last result : Value} (settled : Settles root node last)
    (stands : StandsFor root result node) :
    ∃ other, Settles root result other ∧ StandsFor root other last := by
  induction settled generalizing result with
  | here plain =>
      cases stands with
      | itself => exact ⟨_, .here plain, .itself⟩
      | made inlined =>
          exact ⟨_, .here (referenceOf?_of_inlined textless inlined plain), .made inlined⟩
  | through refers found rest induction =>
      cases stands with
      | itself => exact ⟨_, .through refers found rest, .itself⟩
      | made inlined =>
          cases becomes_of_inlineWithin inlined.becomes with
          | list => simp [referenceOf?] at refers
          | map plain => simp [referenceOf?, plain] at refers
          | through refers' _ found' inlined' =>
              obtain rfl := Option.some.inj (refers.symm.trans refers')
              obtain rfl := Except.ok.inj (found.symm.trans found')
              exact induction (.made ⟨references_subset_of_target found, inlined'⟩)
          | kept => exact ⟨_, .through refers found rest, .itself⟩
          | leaf => exact ⟨_, .through refers found rest, .itself⟩

/-- Where references lead from what a node became, they lead to its like from the node. -/
theorem exists_settles_of_made {followed : List String} {node result other : Value}
    (inlined : Inlined root followed node result) (settled : Settles root result other) :
    ∃ last, Settles root node last ∧ StandsFor root other last := by
  induction length : followed.length using Nat.strongRecOn generalizing followed node with
  | ind count induction =>
      by_cases plain : referenceOf? node = none
      · have plain' := referenceOf?_of_inlined textless inlined plain
        obtain rfl := settles_unique (.here plain') settled
        exact ⟨node, .here plain, .made inlined⟩
      · cases becomes_of_inlineWithin inlined.becomes with
        | list => simp [referenceOf?] at plain
        | map plain' => simp [referenceOf?, plain'] at plain
        | through refers mentioned found inlined' =>
            obtain ⟨last, settled', stands⟩ := induction _ (length ▸ length_without_lt mentioned)
              ⟨references_subset_of_target found, inlined'⟩ rfl
            exact ⟨last, .through refers found settled', stands⟩
        | kept => exact ⟨_, settled, .itself⟩
        | leaf => exact ⟨_, settled, .itself⟩

/-- Where references lead from what stands for a node, they lead to its like from the node. -/
theorem exists_settles_back {node result other : Value} (stands : StandsFor root result node)
    (settled : Settles root result other) :
    ∃ last, Settles root node last ∧ StandsFor root other last := by
  cases stands with
  | itself => exact ⟨other, settled, .itself⟩
  | made inlined => exact exists_settles_of_made textless inlined settled

omit textless in
theorem outline_of_standsFor {node other : Value} (stands : StandsFor root other node)
    (plain : referenceOf? node = none) : outline other = outline node := by
  cases stands with
  | itself => rfl
  | made inlined => exact outline_of_inlined inlined plain

omit textless in
theorem rel_part?_of_standsFor {node other : Value} (stands : StandsFor root other node)
    (plain : referenceOf? node = none) (move : Move) :
    Option.Rel (fun part made => StandsFor root made part) (move.part? node)
    (move.part? other) := by
  cases stands with
  | itself =>
      cases move.part? node with
      | none => exact .none
      | some part => exact .some .itself
  | made inlined =>
      have related := rel_part?_of_inlined inlined plain move
      generalize move.part? node = part, move.part? other = made at related ⊢
      cases related with
      | none => exact .none
      | some inlined => exact .some (.made inlined)

/-- A walk from a node can be gone from what stands for it, to a node that looks the same. -/
theorem exists_leads_of_standsFor {node last result : Value} {moves : List Move}
    (walked : Leads root node moves last) (stands : StandsFor root result node) :
    ∃ other, Leads root result moves other ∧ outline other = outline last := by
  induction walked generalizing result with
  | stay settled =>
      obtain ⟨other, settled', stands'⟩ := exists_settles_of_standsFor textless settled stands
      exact ⟨other, .stay settled', outline_of_standsFor stands' (plain_of_settles settled)⟩
  | @onward node stop next last move moves settled part _ induction =>
      obtain ⟨stop', settled', stands'⟩ := exists_settles_of_standsFor textless settled stands
      have parts := rel_part?_of_standsFor stands' (plain_of_settles settled) move
      rw [part] at parts
      cases found : move.part? stop' with
      | none =>
          rw [found] at parts
          nomatch parts
      | some next' =>
          rw [found] at parts
          obtain ⟨nextStands⟩ := parts
          obtain ⟨other, walked', same⟩ := induction nextStands
          exact ⟨other, .onward settled' found walked', same⟩

/-- A walk from what stands for a node can be gone from the node, to a node that looks the same. -/
theorem exists_leads_of_leads_standsFor {node other result : Value} {moves : List Move}
    (walked : Leads root result moves other) (stands : StandsFor root result node) :
    ∃ last, Leads root node moves last ∧ outline other = outline last := by
  induction walked generalizing node with
  | stay settled =>
      obtain ⟨last, settled', stands'⟩ := exists_settles_back textless stands settled
      exact ⟨last, .stay settled', outline_of_standsFor stands' (plain_of_settles settled')⟩
  | @onward result stop next other move moves settled part _ induction =>
      obtain ⟨stop', settled', stands'⟩ := exists_settles_back textless stands settled
      have parts := rel_part?_of_standsFor stands' (plain_of_settles settled') move
      rw [part] at parts
      cases found : move.part? stop' with
      | none =>
          rw [found] at parts
          nomatch parts
      | some next' =>
          rw [found] at parts
          obtain ⟨nextStands⟩ := parts
          obtain ⟨last, walked', same⟩ := induction nextStands
          exact ⟨last, .onward settled' found walked', same⟩

end Walks

/-- Whatever walk is gone, an inlined document shows at its end what the document itself shows: the
same value without parts, the same keys, the same length, or nothing at all. -/
theorem outline_inline_iff {document flat : Value} (inlined : inline document = .ok flat)
    (textless : Textless document) (moves : List Move) (seen : Outline) :
    (∃ node, Leads document document moves node ∧ outline node = seen) ↔
      ∃ node, Leads document flat moves node ∧ outline node = seen := by
  have stands : StandsFor document flat document :=
    .made ⟨List.Subset.refl _, Outcome.mapError_eq_ok.mp inlined⟩
  constructor
  · rintro ⟨node, walked, rfl⟩
    exact exists_leads_of_standsFor textless walked stands
  · rintro ⟨node, walked, rfl⟩
    obtain ⟨other, walked', same⟩ := exists_leads_of_leads_standsFor textless walked stands
    exact ⟨other, walked', same.symm⟩

/-- A reference to a chain of nodes without end. -/
def chainLink : Value := .map [(.str "$ref", .str "#/Node")]

def chainNode : Value := .map [(.str "next", chainLink)]

def chainDocument : Value := .map [(.str "Node", chainNode), (.str "first", chainLink)]

/-- However far the chain is walked, there is a next node; inlining has left a reference on the
way. -/
theorem outline_inline_chainDocument :
    ∃ flat, inline chainDocument = .ok flat ∧ Textless chainDocument ∧
      ∃ node, Leads chainDocument flat
        [.key (.str "first"), .key (.str "next"), .key (.str "next"), .key (.str "next")] node ∧
          outline node = .keys [.str "next"] := by
  obtain ⟨flat, inlined⟩ : ∃ flat, inline chainDocument = .ok flat :=
    Outcome.exists_eq_ok_of_isSome (by decide +kernel)
  have pointed : target chainDocument "#/Node" = .ok chainNode := rfl
  have textless : Textless chainDocument := by
    have held : references chainDocument = ["#/Node", "#/Node"] := by decide
    intro reference member text
    have same : reference = "#/Node" := by simpa [held] using member
    simp [same, pointed, chainNode]
  have node : Settles chainDocument chainNode chainNode := .here rfl
  have link : Settles chainDocument chainLink chainNode := .through rfl pointed node
  have walked : Leads chainDocument chainDocument
      [.key (.str "first"), .key (.str "next"), .key (.str "next"), .key (.str "next")] chainNode :=
    .onward (.here rfl) rfl (.onward link rfl (.onward link rfl (.onward link rfl (.stay link))))
  exact ⟨flat, inlined, textless,
    (outline_inline_iff inlined textless _ _).mp ⟨chainNode, walked, rfl⟩⟩

end ApiCompiler.Document
