import ApiCompiler.Misuse
import ApiCompiler.Value.Display

/-!
# Types that a schema accepts

The members of a union bring their types one after another, and a schema its own after them. A
schema that names no type accepts texts.
-/

namespace ApiCompiler.Description

/-- The types of a schema's own declaration; a list of them may hold a mark for nothing. -/
def declaredTypes : Value → List Value
  | .null => []
  | .list types => types.filter fun type => !type.sameKey (.str "null")
  | type => [type]

/-- Adds a name to those that were met, unless it is one of them. -/
def addName (met : List String) (name : String) : List String :=
  if name ∈ met then met else met ++ [name]

def addType (met : List String) (type : Value) : Except Misuse (List String) := do
  return addName met (← type.shown)

mutual

/-- Adds the types of a schema to those that were met, in the order in which they come. -/
def collectTypes (met : List String) : Value → Except Misuse (List String)
  | .map entries => do
    let met ← collectUnder met "oneOf" entries
    let met ← collectUnder met "anyOf" entries
    (declaredTypes ((Value.field? entries "type").getD .null)).foldlM addType met
  | _ => .ok met

/-- Adds the types of the union under a key. -/
def collectUnder (met : List String) (name : String) :
    List (Value × Value) → Except Misuse (List String)
  | [] => .ok met
  | (key, union) :: rest =>
    if key.sameKey (.str name) then collectMembers met union else collectUnder met name rest

/-- Adds the types of a union's members; only lists can have members with types. -/
def collectMembers (met : List String) : Value → Except Misuse (List String)
  | .list members => collectAll met members
  | .tuple members => collectAll met members
  | .str _ => .ok met
  | .bytes _ => .ok met
  | .set _ => .ok met
  | .map _ => .ok met
  | union => if union.isVacant then .ok met else .error .wrongKind

def collectAll (met : List String) : List Value → Except Misuse (List String)
  | [] => .ok met
  | member :: members => do
    let met ← collectTypes met member
    collectAll met members

end

/-- The types of a schema without repetition. -/
def schemaTypes (schema : Value) : Except Misuse (List String) := do
  let types ← collectTypes [] schema
  return if types.isEmpty then ["string"] else types

end ApiCompiler.Description
