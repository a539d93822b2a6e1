import ApiCompiler.Misuse
import ApiCompiler.Value

/-!
# Mappings from values

Arguments and options may be given as mappings or as rows of pairs.
-/

namespace ApiCompiler.Call

/-- The entries of a mapping, in order. -/
abbrev Entries := List (Value × Value)

/-- The values that are met in going through a value. -/
def partsOf? : Value → Option (List Value)
  | .list items => some items
  | .tuple items => some items
  | .set members => some members
  | .map entries => some (entries.map (·.1))
  | .str text => some (text.toList.map fun character => .str (String.singleton character))
  | .bytes content => some (content.map fun byte => .int byte.toNat)
  | _ => none

/-- The two values that are met in going through a value, if there are two. -/
def halvesOf (pair : Value) : Except Misuse (Value × Value) :=
  match partsOf? pair with
  | none => .error .wrongKind
  | some [first, second] => .ok (first, second)
  | some _ => .error .badContent

/-- The key and value that a pair holds. -/
def pairOf (pair : Value) : Except Misuse (Value × Value) := do
  let (key, value) ← halvesOf pair
  if key.isKey then return (key, value) else throw .wrongKind

/-- The value at a place of a sequence, or under a number of a mapping. -/
def itemAt (value : Value) (place : Nat) : Except Misuse Value :=
  match value with
  | .map entries =>
    match entries.find? (·.1.sameKey (.int place)) with
    | some entry => .ok entry.2
    | none => .error .absentKey
  | .set _ => .error .wrongKind
  | value =>
    match partsOf? value with
    | none => .error .wrongKind
    | some parts =>
      match parts[place]? with
      | some part => .ok part
      | none => .error .absentItem

/-- The entries of a mapping, or of a row of pairs. -/
def entriesOf : Value → Except Misuse Entries
  | .map entries => .ok entries
  | value =>
    match partsOf? value with
    | none => .error .wrongKind
    | some parts => do return Value.ofEntries (← parts.mapM pairOf)

/-- The entries of what may be left out. -/
def optionalEntries (value : Value) : Except Misuse Entries :=
  entriesOf (value.orElse (.map []))

/-- The entries of a mapping, and of nothing else. -/
def mappingEntries : Value → Except Misuse Entries
  | .map entries => .ok entries
  | _ => .error .wrongKind

/-- The value under a text key, or nothing. -/
def entry (entries : Entries) (name : String) : Value :=
  (Value.field? entries name).getD .null

/-- The entries without a text key. -/
def without (entries : Entries) (name : String) : Entries :=
  entries.filter fun entry => !entry.1.sameKey (.str name)

/-- Sets the entries of another mapping one after another. -/
def update (entries others : Entries) : Entries :=
  others.foldl (fun built entry => Value.insert built entry.1 entry.2) entries

end ApiCompiler.Call
