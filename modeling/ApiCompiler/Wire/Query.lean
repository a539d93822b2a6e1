import ApiCompiler.Call.Mapping
import ApiCompiler.Value.Display
import ApiCompiler.Wire.Fault
import ApiCompiler.Wire.Percent

/-!
# Queries

The fields of a query, each with all its values. They are given as the text of a query, as a row of
pairs, or as a mapping, in which a list gives several values to one field.
-/

namespace ApiCompiler.Wire

open Call (itemAt)

/-- The text of a single value in a form or a query. -/
def formText : Value → Except Fault String
  | .bool value => .ok (if value then "true" else "false")
  | .null => .ok ""
  | value => Fault.lift value.shown

/-- The values that a field of a form holds. -/
def formValues : Value → List Value
  | .list items => items
  | .tuple items => items
  | value => [value]

/-- The fields of a query, each with all its values. -/
abbrev Fields := List (String × List String)

namespace Fields

/-- The fields with the values of one set. -/
def put (fields : Fields) (name : String) (values : List String) : Fields :=
  if fields.any (·.1 == name) then
    fields.map fun field => if field.1 == name then (name, values) else field
  else fields ++ [(name, values)]

/-- The fields with one more value of one. -/
def add (fields : Fields) (name value : String) : Fields :=
  let values := ((fields.find? (·.1 == name)).map (·.2)).getD []
  fields.put name (values ++ [value])

/-- The fields as a query. -/
def write (fields : Fields) : List Char :=
  writeForm (fields.flatMap fun (name, values) => values.map (bytesOf name, ·))

private def ofText (text : List Char) : Fields :=
  (readForm text).foldl (fun fields (name, value) => fields.add name value) []

/-- Fields whose names are any values. -/
private abbrev Rows := List (Value × List Value)

private def Rows.add (rows : Rows) (name value : Value) : Rows :=
  if rows.any (·.1.sameKey name) then
    rows.map fun row => if row.1.sameKey name then (row.1, row.2 ++ [value]) else row
  else rows ++ [(name, [value])]

private def addRow (rows : Rows) (pair : Value) : Except Fault Rows := do
  let name ← Fault.lift (itemAt pair 0)
  if !name.isKey then Fault.ofMisuse .wrongKind
  return rows.add name (← Fault.lift (itemAt pair 1))

private def ofRows (rows : Rows) : Except Fault Fields :=
  rows.foldlM (fun fields (name, values) => do
    return fields.put (← Fault.lift name.shown) (← values.mapM formText)) []

private def ofValue : Value → Except Fault Fields
  | .str text => .ok (ofText text.toList)
  | .bytes content =>
    if content.all (·.toNat < 0x80) then
      .ok (ofText (content.map fun byte => Char.ofNat byte.toNat))
    else .error .badQuery
  | .list pairs => do ofRows (← pairs.foldlM addRow [])
  | .tuple pairs => do ofRows (← pairs.foldlM addRow [])
  | .map entries => ofRows (entries.map fun (name, value) => (name, formValues value))
  | _ => Fault.ofMisuse .noFields

end Fields

/-- What a request does to the query of its address. -/
inductive Query where
  | keep
  | drop
  | replace (fields : Fields)
deriving Repr, DecidableEq

/-- The query that a value gives. -/
def Query.ofValue (params : Value) : Except Fault Query :=
  match params with
  | .null => .ok .keep
  | params => do
    if params.isVacant then return .drop
    let fields ← Fields.ofValue params
    return if fields.isEmpty then .drop else .replace fields

end ApiCompiler.Wire
