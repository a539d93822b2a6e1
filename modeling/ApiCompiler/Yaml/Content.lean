import ApiCompiler.Yaml.Node
import ApiCompiler.Yaml.Scalar
import ApiCompiler.Yaml.Tokens

/-!
# Values of nodes

The value that a node of a row stands for. Containers are made empty and filled level by level, each
node once, however many aliases it has. Before a mapping is filled, the entries under its merge keys
join it for good, and the mark of a mapping's own value becomes a text wherever it is used. A
container that is a part of itself is cut where it comes again.
-/

namespace ApiCompiler.Yaml

open Text (Spares)

/-- A key of a mapping and where it comes from: two undefined numbers of one origin are one key. -/
structure Key where
  value : Value
  origin : Nat
deriving Repr

def isUndefined : Value → Bool
  | .float .nan => true
  | _ => false

/-- Whether two keys of a mapping are one. -/
def Key.same (left right : Key) : Bool :=
  left.value.sameKey right.value ||
    (isUndefined left.value && isUndefined right.value && left.origin == right.origin)

/-- What a node gives; the parts of a container are places. -/
inductive Form where
  | value (value : Value)
  /-- A container that is not filled yet. -/
  | unfilled
  | list (items : List Nat)
  | pairs (items : List (Nat × Nat))
  | map (entries : List (Key × Nat))
  | set (members : List Key)
deriving Repr

/-- What has been made of a row of nodes. -/
structure Growth where
  nodes : Array Node
  forms : Array (Option Form)
  /-- The containers to fill on the next level, the last one first. -/
  waiting : List Nat

/-- Steps of making values. -/
abbrev Growing := StateT Growth (Except Fault)

namespace Growing

def refuse {α : Type} : Growing α :=
  throw .malformed

def nodeAt (place : Nat) : Growing Node := do
  match (← get).nodes[place]? with
  | some node => return node
  | none => refuse

def putNode (place : Nat) (node : Node) : Growing Unit :=
  modify fun growth => { growth with nodes := growth.nodes.setIfInBounds place node }

def formAt? (place : Nat) : Growing (Option Form) := do
  return ((← get).forms[place]?).join

def putForm (place : Nat) (form : Form) : Growing Unit :=
  modify fun growth => { growth with forms := growth.forms.setIfInBounds place (some form) }

def tagAt (place : Nat) : Growing Tag := do
  match ← nodeAt place with
  | .scalar tag _ => return tag
  | .sequence tag _ => return tag
  | .mapping tag _ => return tag

def nameText (place : Nat) : Growing Unit := do
  match ← nodeAt place with
  | .scalar _ text => putNode place (.scalar .str text)
  | .sequence _ items => putNode place (.sequence .str items)
  | .mapping _ entries => putNode place (.mapping .str entries)

/-- The values under the merge keys of some entries, and the other entries. -/
def parted (entries : List (Nat × Nat)) : Growing (List Nat × List (Nat × Nat)) :=
  entries.foldlM (fun (merged, own) (key, value) => do
    match ← tagAt key with
    | .merge => return (merged ++ [value], own)
    | .value =>
      nameText key
      return (merged, own ++ [(key, value)])
    | _ => return (merged, own ++ [(key, value)])) ([], [])

/-- The entries of a mapping, merged ones first; the node holds them so from now on. Its merge keys
are gone before others are merged, so that it may be merged into itself. -/
def ownEntries : Nat → Nat → Growing (List (Nat × Nat))
  | 0, _ => refuse
  | fuel + 1, place => do
    match ← nodeAt place with
    | .mapping tag entries =>
      let (sources, own) ← parted entries
      putNode place (.mapping tag own)
      let merged ← sources.mapM fun source => do
        match ← nodeAt source with
        | .mapping .. => ownEntries fuel source
        | .sequence _ items => return (← items.mapM (ownEntries fuel)).reverse.flatten
        | .scalar .. => refuse
      putNode place (.mapping tag (merged.flatten ++ own))
      return merged.flatten ++ own
    | _ => refuse

def entriesAt (place : Nat) : Growing (List (Nat × Nat)) := do
  ownEntries ((← get).nodes.size + 1) place

/-- The text of a scalar, or of the value that stands for a mapping, which may be a mapping
again. -/
def textAt : Nat → Nat → Growing String
  | 0, _ => throw (.misuse .endless)
  | fuel + 1, place => do
    match ← nodeAt place with
    | .scalar _ text => return text
    | .sequence .. => refuse
    | .mapping _ entries =>
      match ← entries.findM? fun entry => return (← tagAt entry.1) == .value with
      | some (_, value) => textAt fuel value
      | none => refuse

def scalarValue (tag : Tag) (place : Nat) : Growing Value := do
  let text ← textAt ((← get).nodes.size + 1) place
  match tag, ← nodeAt place with
  | .timestamp, .mapping .. => throw (.misuse .wrongKind)
  | _, _ => Scalar.value tag text

/-- Makes the value of a node unless it is made already; a container is left to be filled. -/
def make (place : Nat) : Growing Unit := do
  if (← formAt? place).isNone then
    let tag ← tagAt place
    if [.seq, .map, .set, .omap, .pairs].contains tag then
      putForm place .unfilled
      modify fun growth => { growth with waiting := place :: growth.waiting }
    else putForm place (.value (← scalarValue tag place))

def originAt (place : Nat) : Growing Nat := do
  match ← nodeAt place with
  | .scalar _ text => return if Scalar.namesUndefined text then 0 else place + 1
  | _ => return place + 1

def makeKey (place : Nat) : Growing Key := do
  make place
  match ← formAt? place with
  | some (.value value) => return ⟨value, ← originAt place⟩
  | _ => refuse

def insert (entries : List (Key × Nat)) (key : Key) (value : Nat) : List (Key × Nat) :=
  match entries with
  | [] => [(key, value)]
  | entry :: rest =>
    if entry.1.same key then (entry.1, value) :: rest else entry :: insert rest key value

def makeEntries (place : Nat) : Growing (List (Key × Nat)) := do
  (← entriesAt place).foldlM (fun made (key, value) => do
    let key ← makeKey key
    make value
    return insert made key value) []

def makePair (place : Nat) : Growing (Nat × Nat) := do
  match ← nodeAt place with
  | .mapping _ [(key, value)] =>
    make key
    make value
    return (key, value)
  | _ => refuse

def fill (place : Nat) : Growing Unit := do
  match ← tagAt place, ← nodeAt place with
  | .seq, .sequence _ items =>
    items.forM make
    putForm place (.list items)
  | .omap, .sequence _ items => putForm place (.pairs (← items.mapM makePair))
  | .pairs, .sequence _ items => putForm place (.pairs (← items.mapM makePair))
  | .map, .mapping .. => putForm place (.map (← makeEntries place))
  | .set, .mapping .. => putForm place (.set ((← makeEntries place).map (·.1)))
  | _, _ => refuse

def fillLevels : Nat → Growing Unit
  | 0 => pure ()
  | fuel + 1 => do
    let level := (← get).waiting.reverse
    unless level.isEmpty do
      modify fun growth => { growth with waiting := [] }
      level.forM fill
      fillLevels fuel

end Growing

/-- What stands for a container inside of itself: a reference that leads nowhere. -/
def cutValue [Spares] : Value :=
  .map [(.str "$ref", .str (String.singleton Spares.loop))]

/-- The value of a form, by the values of its parts. -/
def Form.valueBy (part : Nat → Value) : Form → Value
  | .value known => known
  | .unfilled => .null
  | .list items => .list (items.map part)
  | .pairs items => .list (items.map fun pair => .tuple [part pair.1, part pair.2])
  | .map entries => .map (entries.map fun entry => (entry.1.value, part entry.2))
  | .set members => .set (members.map (·.value))

/-- The value of what was made of a node that is no deeper than the fuel, below some nodes. -/
def valueWithin [Spares] (forms : Array (Option Form)) : Nat → List Nat → Nat → Value
  | 0, _, _ => .null
  | fuel + 1, above, place =>
    if place ∈ above then cutValue
    else
      ((forms[place]?).join.map (Form.valueBy (valueWithin forms fuel (place :: above)))).getD .null

/-- The value that a node of a row stands for; no node stands for nothing. -/
def valueOf [Spares] (nodes : Array Node) : Option Nat → Except Fault Value
  | none => .ok .null
  | some root => do
    let growing : Growing Unit := do
      Growing.make root
      Growing.fillLevels nodes.size
    let (_, growth) ← growing.run ⟨nodes, Array.replicate nodes.size none, []⟩
    return valueWithin growth.forms (nodes.size + 1) [] root

/-- The value that the only document of a text writes; a text without content writes nothing. -/
def read [Spares] (text : String) : Except Fault Value := do
  let (root, nodes) ← nodesOf (tokensOf text.toList)
  valueOf nodes root

end ApiCompiler.Yaml
