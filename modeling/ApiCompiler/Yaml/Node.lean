import ApiCompiler.Yaml.Tag
import ApiCompiler.Yaml.Token

/-!
# Nodes

The nodes that the tokens of one YAML document describe. Nodes stand in a row and hold their parts
by their places. A node stands behind its parts, unless an anchor names it: then its place is kept
free in front of them, and an alias among its parts may be its own place.
-/

namespace ApiCompiler.Yaml

/-- A node of a document; its parts are places of other nodes. -/
inductive Node where
  | scalar (tag : Tag) (text : String)
  | sequence (tag : Tag) (items : List Nat)
  | mapping (tag : Tag) (entries : List (Nat × Nat))
deriving Repr

/-- What a document's nodes are made from. -/
structure Composition where
  /-- The tokens that are left. -/
  tokens : List Token
  /-- The beginnings of addresses that handles stand for. -/
  handles : List (String × String)
  /-- The places of the nodes that anchors name. -/
  anchors : List (String × Nat)
  /-- The nodes so far. -/
  nodes : Array Node

/-- Steps of making nodes. -/
abbrev Composing := StateT Composition (Except Fault)

namespace Composing

def refuse {α : Type} : Composing α :=
  throw .malformed

/-- The next token; a fault that stands there ends the work. -/
def peek : Composing (Option Token) := do
  match (← get).tokens.head? with
  | some (.fault cause) => throw cause
  | next => return next

def skip : Composing Unit :=
  modify fun composition => { composition with tokens := composition.tokens.tail }

/-- The place of a further node. -/
def add (node : Node) : Composing Nat := do
  let place := (← get).nodes.size
  modify fun composition => { composition with nodes := composition.nodes.push node }
  return place

def nextIsOneOf (tokens : List Token) : Composing Bool := do
  return (← peek).any tokens.contains

/-- Passes a token if it is the next one. -/
def accept (token : Token) : Composing Bool := do
  if (← peek) == some token then
    skip
    return true
  else return false

def expect (token : Token) : Composing Unit := do
  unless ← accept token do refuse

def namedNode (name : String) : Composing Nat := do
  match (← get).anchors.find? (·.1 == name) with
  | some (_, place) => return place
  | none => refuse

/-- The node of what is not written. -/
def absent : Node :=
  .scalar (.ofPlain "") ""

/-- Keeps a place free for the node whose content stands next, and gives it a name. -/
def openAnchor (name : String) : Composing Nat := do
  let _ ← peek
  if (← get).anchors.any (·.1 == name) then refuse
  else
    let place ← add absent
    modify fun composition => { composition with anchors := (name, place) :: composition.anchors }
    return place

/-- Puts a node on the place that was kept free for it. -/
def settle (place : Nat) (node : Node) : Composing Nat := do
  modify fun composition =>
    { composition with nodes := composition.nodes.setIfInBounds place node }
  return place

def takeAnchor : Composing (Option String) := do
  match ← peek with
  | some (.anchor name) =>
    skip
    return some name
  | _ => return none

def takeTag : Composing (Option (Option String × String)) := do
  match ← peek with
  | some (.tag handle suffix) =>
    skip
    return some (handle, suffix)
  | _ => return none

def addressOf (handle : Option String) (suffix : String) : Composing String := do
  match handle with
  | none => return suffix
  | some handle =>
    match (← get).handles.find? (·.1 == handle) with
    | some (_, lead) => return lead ++ suffix
    | none => refuse

/-- An anchor and an address, in either order. -/
def takeProperties : Composing (Option String × Option String) := do
  let first ← takeAnchor
  let tag ← takeTag
  let anchor ← if first.isNone && tag.isSome then takeAnchor else pure first
  match tag with
  | none => return (anchor, none)
  | some (handle, suffix) => return (anchor, some (← addressOf handle suffix))

def absentNode : Composing Nat :=
  add absent

mutual

/-- A node; in a block it may be a block, and where no block opens, a sequence without
indentation. -/
def node (inBlock indentless : Bool) : Nat → Composing Nat
  | 0 => refuse
  | fuel + 1 => do
    match ← peek with
    | some (.alias name) =>
      skip
      namedNode name
    | _ =>
      let (anchor, address) ← takeProperties
      match anchor with
      | none => add (← content inBlock indentless address address.isSome fuel)
      | some name =>
        let place ← openAnchor name
        settle place (← content inBlock indentless address true fuel)

/-- What stands behind a node's anchor and tag; with either of them it may be absent. -/
def content (inBlock indentless : Bool) (address : Option String) (mayBeAbsent : Bool) :
    Nat → Composing Node
  | 0 => refuse
  | fuel + 1 => do
    match ← peek with
    | some (.scalar text plain) =>
      skip
      return .scalar (.ofScalar address plain text) text
    | some .flowSequenceStart =>
      skip
      return .sequence (.ofCollection .seq address) (← flowItems true fuel)
    | some .flowMappingStart =>
      skip
      return .mapping (.ofCollection .map address) (← flowEntries true fuel)
    | next =>
      if next == some .blockEntry && indentless then
        return .sequence (.ofCollection .seq address) (← indentlessItems fuel)
      else if next == some .blockSequenceStart && inBlock then
        skip
        return .sequence (.ofCollection .seq address) (← blockItems fuel)
      else if next == some .blockMappingStart && inBlock then
        skip
        return .mapping (.ofCollection .map address) (← blockEntries fuel)
      else if mayBeAbsent then return .scalar (.ofScalar address true "") ""
      else refuse

/-- A node unless one of some tokens stands there instead. -/
def nodeUnless (inBlock indentless : Bool) (tokens : List Token) : Nat → Composing Nat
  | 0 => refuse
  | fuel + 1 => do
    if ← nextIsOneOf tokens then absentNode
    else node inBlock indentless fuel

def blockItems : Nat → Composing (List Nat)
  | 0 => refuse
  | fuel + 1 => do
    if ← accept .blockEntry then
      let item ← nodeUnless true false [.blockEntry, .blockEnd] fuel
      return item :: (← blockItems fuel)
    else
      expect .blockEnd
      return []

def indentlessItems : Nat → Composing (List Nat)
  | 0 => refuse
  | fuel + 1 => do
    if ← accept .blockEntry then
      let item ← nodeUnless true false [.blockEntry, .key, .value, .blockEnd] fuel
      return item :: (← indentlessItems fuel)
    else return []

def blockEntries : Nat → Composing (List (Nat × Nat))
  | 0 => refuse
  | fuel + 1 => do
    let stops := [.key, .value, .blockEnd]
    if ← accept .key then
      let key ← nodeUnless true true stops fuel
      let value ← if ← accept .value then nodeUnless true true stops fuel else absentNode
      return (key, value) :: (← blockEntries fuel)
    else
      expect .blockEnd
      return []

/-- The items of a flow sequence; an item with a key is a mapping of one entry. -/
def flowItems (first : Bool) : Nat → Composing (List Nat)
  | 0 => refuse
  | fuel + 1 => do
    if ← accept .flowSequenceEnd then return []
    else
      unless first do expect .flowEntry
      if ← accept .key then
        let key ← nodeUnless false false [.value, .flowEntry, .flowSequenceEnd] fuel
        let value ←
          if ← accept .value then nodeUnless false false [.flowEntry, .flowSequenceEnd] fuel
          else absentNode
        let item ← add (.mapping .map [(key, value)])
        return item :: (← flowItems false fuel)
      else if ← accept .flowSequenceEnd then return []
      else
        let item ← node false false fuel
        return item :: (← flowItems false fuel)

def flowEntries (first : Bool) : Nat → Composing (List (Nat × Nat))
  | 0 => refuse
  | fuel + 1 => do
    if ← accept .flowMappingEnd then return []
    else
      unless first do expect .flowEntry
      if ← accept .key then
        let key ← nodeUnless false false [.value, .flowEntry, .flowMappingEnd] fuel
        let value ←
          if ← accept .value then nodeUnless false false [.flowEntry, .flowMappingEnd] fuel
          else absentNode
        return (key, value) :: (← flowEntries false fuel)
      else if ← accept .flowMappingEnd then return []
      else
        let key ← node false false fuel
        let value ← absentNode
        return (key, value) :: (← flowEntries false fuel)

end

def knownHandles : List (String × String) :=
  [("!", "!"), ("!!", "tag:yaml.org,2002:")]

/-- The directives in front of a document: one version of YAML 1, and handles that differ. -/
def directives (hasVersion : Bool) : Nat → List (String × String) →
    Composing (List (String × String))
  | 0, _ => refuse
  | fuel + 1, handles => do
    match ← peek with
    | some (.versionDirective major) =>
      skip
      if hasVersion || major != 1 then refuse else directives true fuel handles
    | some (.tagDirective handle lead) =>
      skip
      if handles.any (·.1 == handle) then refuse
      else directives hasVersion fuel ((handle, lead) :: handles)
    | some .otherDirective =>
      skip
      directives hasVersion fuel handles
    | _ => return handles

def isDirective : Token → Bool
  | .versionDirective _ => true
  | .tagDirective .. => true
  | .otherDirective => true
  | _ => false

def skipDocumentEnds : Nat → Composing Unit
  | 0 => pure ()
  | fuel + 1 => do
    if ← accept .documentEnd then skipDocumentEnds fuel

/-- The node of a document that begins with a mark. -/
def markedDocument (fuel : Nat) : Composing Nat := do
  let handles ← directives false fuel []
  modify fun composition => { composition with handles := handles ++ knownHandles }
  expect .documentStart
  let next ← peek
  if next.any isDirective || (← nextIsOneOf [.documentStart, .documentEnd, .streamEnd]) then
    absentNode
  else node true false fuel

/-- A text ends behind its only document; of another one, the directives are still read. -/
def expectEnd (fuel : Nat) : Composing Unit := do
  skipDocumentEnds fuel
  unless ← accept .streamEnd do
    let _ ← directives false fuel []
    expect .documentStart
    refuse

/-- The root of a text's only document; a text may hold none. -/
def document (fuel : Nat) : Composing (Option Nat) := do
  let next ← peek
  if next == some .streamEnd then return none
  else
    let root ←
      if next.any isDirective || next == some .documentStart then markedDocument fuel
      else node true false fuel
    expectEnd fuel
    return some root

end Composing

/-- The root and the nodes that the tokens of a text describe; a text without content has no
root. -/
def nodesOf (tokens : List Token) : Except Fault (Option Nat × Array Node) :=
  let fuel := 4 * tokens.length + 4
  (fun reached => (reached.1, reached.2.nodes)) <$>
    (Composing.document fuel).run ⟨tokens, Composing.knownHandles, [], #[]⟩

end ApiCompiler.Yaml
