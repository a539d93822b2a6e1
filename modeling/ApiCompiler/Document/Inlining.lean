import ApiCompiler.Document.Pointer

/-!
# Inlining references

Puts the node that a reference points at in its place, and goes on inside of that. A reference that
leads back to itself stays where it is.
-/

namespace ApiCompiler.Document

/-- The reference that a mapping's entries are. -/
def reference? (entries : List (Value × Value)) : Option String :=
  (Value.field? entries "$ref").bind Value.text?

mutual

/-- Replaces the outermost references inside a node. -/
def replaceReferences (replace : String → Value → Except Fault Value) :
    Value → Except Fault Value
  | .list items => do return .list (← replaceInItems replace items)
  | .map entries =>
    match reference? entries with
    | some reference => replace reference (.map entries)
    | none => do return .map (← replaceInEntries replace entries)
  | node => .ok node

/-- Replaces the outermost references inside the items of a list. -/
def replaceInItems (replace : String → Value → Except Fault Value) :
    List Value → Except Fault (List Value)
  | [] => .ok []
  | item :: items => do
    let item ← replaceReferences replace item
    return item :: (← replaceInItems replace items)

/-- Replaces the outermost references inside the values of a mapping. -/
def replaceInEntries (replace : String → Value → Except Fault Value) :
    List (Value × Value) → Except Fault (List (Value × Value))
  | [] => .ok []
  | (key, value) :: rest => do
    let value ← replaceReferences replace value
    return (key, value) :: (← replaceInEntries replace rest)

end

mutual

/-- The references inside a node, also those inside of other references. -/
def references : Value → List String
  | .list items => referencesInItems items
  | .map entries => (reference? entries).toList ++ referencesInEntries entries
  | _ => []

def referencesInItems : List Value → List String
  | [] => []
  | item :: items => references item ++ referencesInItems items

def referencesInEntries : List (Value × Value) → List String
  | [] => []
  | (_, value) :: rest => references value ++ referencesInEntries rest

end

/-- The references of a list but one. -/
def without (reference : String) (references : List String) : List String :=
  references.filter (· != reference)

theorem length_without_lt {reference : String} {references : List String}
    (mentioned : reference ∈ references) :
    (without reference references).length < references.length := by
  unfold without
  rw [List.length_filter_lt_length_iff_exists]
  exact ⟨reference, mentioned, by simp⟩

/-- Inlines the references inside a node of which a list says that they may still be followed. -/
def inlineWithin (root : Value) (followed : List String) (node : Value) : Except Fault Value :=
  replaceReferences (fun reference place =>
    if _mentioned : reference ∈ followed then do
      inlineWithin root (without reference followed) (← target root reference)
    else .ok place) node
termination_by followed.length
decreasing_by exact length_without_lt _mentioned

/-- Inlines the references inside a document. -/
def inline (document : Value) : Except Failure Value :=
  (inlineWithin document (references document) document).mapError .document

end ApiCompiler.Document
