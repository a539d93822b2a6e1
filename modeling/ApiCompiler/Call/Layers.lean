import ApiCompiler.Misuse
import ApiCompiler.Text.Lowercase
import ApiCompiler.Value

/-!
# Header and query layers

Header layers merge by name without regard to case; the later entry wins and brings its own spelling
and place. What is unset is left out of headers, and of queries also what is empty.
-/

namespace ApiCompiler.Call

/-- The entries of a layer. -/
def layerEntries : Value → Except Misuse (List (Value × Value))
  | .map entries => .ok entries
  | _ => .error .noFields

/-- A header name without regard to case. -/
def foldedName : Value → Except Misuse Value
  | .str name => .ok (.str (Text.lowercased name))
  | .bytes name => .ok (.bytes (name.map fun byte => (Char.ofNat byte.toNat).toLower.toNat.toUInt8))
  | _ => .error .noFields

/-- Adds a header at the end and drops those of the same name. -/
def addHeader (merged : List (Value × Value)) (header : Value × Value) :
    Except Misuse (List (Value × Value)) := do
  if merged.isEmpty then return [header]
  else
    let name ← foldedName header.1
    let kept ← merged.filterM fun entry => return !((← foldedName entry.1).sameKey name)
    return kept ++ [header]

/-- Adds the headers of a layer one after another. -/
def addLayer (merged : List (Value × Value)) (layer : Value) :
    Except Misuse (List (Value × Value)) := do
  (← layerEntries layer).foldlM addHeader merged

/-- The headers of all layers, the later ones winning. -/
def mergeHeaders (layers : List Value) : Except Misuse (List (Value × Value)) :=
  layers.foldlM addLayer []

/-- A header that is set. -/
def isSet : Value → Bool
  | .null => false
  | _ => true

/-- A query value that is set and no empty list or tuple. -/
def isSent : Value → Bool
  | .null => false
  | .list [] => false
  | .tuple [] => false
  | _ => true

/-- The headers that are set. -/
def setHeaders (headers : List (Value × Value)) : List (Value × Value) :=
  headers.filter fun entry => isSet entry.2

/-- The query values that are sent. -/
def sentQuery (query : List (Value × Value)) : List (Value × Value) :=
  query.filter fun entry => isSent entry.2

end ApiCompiler.Call
