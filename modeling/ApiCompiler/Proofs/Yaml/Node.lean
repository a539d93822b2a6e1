import ApiCompiler.Proofs.Yaml.Scalar
import ApiCompiler.Proofs.Yaml.Tokens
import ApiCompiler.Yaml.Node

/-!
# Nodes of JSON

The nodes that the tokens of a value in JSON describe: texts, plain scalars, and sequences and
mappings. No anchors name them, so that their parts stand in front of them. They lie in the row as
the value is written.
-/

namespace ApiCompiler.Yaml

/-- Steps with a state go on from what the first of them reaches. -/
theorem bind_eq {σ ε α β : Type} {work : StateT σ (Except ε) α} {next : α → StateT σ (Except ε) β}
    {before after : σ} {made : α} (worked : work before = .ok (made, after)) :
    (work >>= next) before = next made after := by
  change (work before >>= fun reached => next reached.1 reached.2) = _
  rw [worked]
  rfl

namespace Composing

/-- Tokens that a node of JSON begins with. -/
def opensNode : Token → Bool
  | .scalar .. => true
  | .flowSequenceStart => true
  | .flowMappingStart => true
  | _ => false

def isFault : Token → Bool
  | .fault _ => true
  | _ => false

variable {state : Composition} {token : Token} {rest : List Token}

theorem peek_eq (starts : state.tokens = token :: rest) (sound : isFault token = false) :
    peek state = .ok (some token, state) := by
  unfold peek
  rw [bind_eq (show (get : Composing Composition) state = .ok (state, state) from rfl), starts]
  cases token <;> first | rfl | contradiction

theorem accept_same (starts : state.tokens = token :: rest) (sound : isFault token = false) :
    accept token state = .ok (true, { state with tokens := rest }) := by
  unfold accept
  rw [bind_eq (peek_eq starts sound), beq_self_eq_true, if_pos rfl]
  change Except.ok (true, { state with tokens := state.tokens.tail }) = _
  rw [starts]
  rfl

theorem accept_other {other : Token} (starts : state.tokens = token :: rest)
    (sound : isFault token = false) (differs : token ≠ other) :
    accept other state = .ok (false, state) := by
  unfold accept
  have apart : (some token == some other) = false :=
    beq_eq_false_iff_ne.mpr fun same => differs (Option.some.inj same)
  rw [bind_eq (peek_eq starts sound), apart]
  rfl

theorem expect_same (starts : state.tokens = token :: rest) (sound : isFault token = false) :
    expect token state = .ok ((), { state with tokens := rest }) := by
  unfold expect
  rw [bind_eq (accept_same starts sound)]
  rfl

theorem add_eq (node : Node) :
    add node state = .ok (state.nodes.size, { state with nodes := state.nodes.push node }) :=
  rfl

theorem skip_eq (starts : state.tokens = token :: rest) :
    skip state = .ok ((), { state with tokens := rest }) := by
  change Except.ok ((), { state with tokens := state.tokens.tail }) = _
  rw [starts]
  rfl

theorem isFault_of_opensNode (opens : opensNode token = true) : isFault token = false := by
  cases token <;> first | rfl | contradiction

theorem takeProperties_eq (starts : state.tokens = token :: rest) (opens : opensNode token = true) :
    takeProperties state = .ok ((none, none), state) := by
  have sound := isFault_of_opensNode opens
  have unnamed : takeAnchor state = .ok (none, state) := by
    unfold takeAnchor
    rw [bind_eq (peek_eq starts sound)]
    cases token <;> first | rfl | contradiction
  have untagged : takeTag state = .ok (none, state) := by
    unfold takeTag
    rw [bind_eq (peek_eq starts sound)]
    cases token <;> first | rfl | contradiction
  unfold takeProperties
  rw [bind_eq unnamed, bind_eq untagged]
  rfl

/-- A node without anchor and tag is added behind what its content brings. -/
theorem node_of_content (starts : state.tokens = token :: rest) (opens : opensNode token = true)
    {inBlock indentless : Bool} {fuel : Nat} {made : Node} {after : Composition}
    (built : content inBlock indentless none false fuel state = .ok (made, after)) :
    node inBlock indentless (fuel + 1) state =
      .ok (after.nodes.size, { after with nodes := after.nodes.push made }) := by
  have sound := isFault_of_opensNode opens
  have properties := takeProperties_eq starts opens
  rw [node, bind_eq (peek_eq starts sound)]
  cases token <;> first
    | contradiction
    | exact (bind_eq properties).trans ((bind_eq built).trans (add_eq _))

theorem content_scalar {text : String} {plain : Bool}
    (starts : state.tokens = .scalar text plain :: rest) (inBlock indentless : Bool) (fuel : Nat) :
    content inBlock indentless none false (fuel + 1) state =
      .ok (.scalar (.ofScalar none plain text) text, { state with tokens := rest }) := by
  rw [content, bind_eq (peek_eq starts rfl)]
  exact bind_eq (skip_eq starts)

theorem content_sequence (starts : state.tokens = .flowSequenceStart :: rest)
    {inBlock indentless : Bool}
    {fuel : Nat} {items : List Nat} {after : Composition}
    (taken : flowItems true fuel { state with tokens := rest } = .ok (items, after)) :
    content inBlock indentless none false (fuel + 1) state = .ok (.sequence .seq items, after) := by
  rw [content, bind_eq (peek_eq starts rfl)]
  exact (bind_eq (skip_eq starts)).trans (bind_eq taken)

theorem content_mapping (starts : state.tokens = .flowMappingStart :: rest)
    {inBlock indentless : Bool}
    {fuel : Nat} {entries : List (Nat × Nat)} {after : Composition}
    (taken : flowEntries true fuel { state with tokens := rest } = .ok (entries, after)) :
    content inBlock indentless none false (fuel + 1) state =
      .ok (.mapping .map entries, after) := by
  rw [content, bind_eq (peek_eq starts rfl)]
  exact (bind_eq (skip_eq starts)).trans (bind_eq taken)

/-- The comma in front of all parts but the first. -/
def separator (first : Bool) : List Token :=
  if first then [] else [.flowEntry]

/-- In front of a further part stands no bracket and no brace. -/
theorem exists_head_of_separator {first : Bool}
    (starts : state.tokens = separator first ++ token :: rest)
    (sound : isFault token = false) :
    ∃ head behind, state.tokens = head :: behind ∧ isFault head = false ∧
      (head = token ∨ head = .flowEntry) := by
  cases first with
  | true => exact ⟨token, rest, starts, sound, Or.inl rfl⟩
  | false => exact ⟨.flowEntry, token :: rest, starts, rfl, Or.inr rfl⟩

theorem passSeparator {first : Bool} (starts : state.tokens = separator first ++ token :: rest)
    {β : Type} (body : Unit → Composing β) :
    (if first = true then body () else expect .flowEntry >>= body) state =
      body () { state with tokens := token :: rest } := by
  cases first with
  | true =>
      exact congrArg (body ())
        (show state = _ by rw [← (show state.tokens = token :: rest from starts)])
  | false => exact bind_eq (expect_same starts rfl)

theorem flowItems_closed (first : Bool) (starts : state.tokens = .flowSequenceEnd :: rest)
    (fuel : Nat) :
    flowItems first (fuel + 1) state = .ok ([], { state with tokens := rest }) := by
  rw [flowItems, bind_eq (accept_same starts rfl)]
  rfl

theorem ne_of_opensNode {other : Token} (opens : opensNode token = true)
    (closed : opensNode other = false) : token ≠ other := by
  rintro rfl
  rw [opens] at closed
  contradiction

theorem flowItems_item {first : Bool} (starts : state.tokens = separator first ++ token :: rest)
    (opens : opensNode token = true) {fuel item : Nat} {items : List Nat}
    {middle after : Composition}
    (made : node false false fuel { state with tokens := token :: rest } = .ok (item, middle))
    (others : flowItems false fuel middle = .ok (items, after)) :
    flowItems first (fuel + 1) state = .ok (item :: items, after) := by
  have sound := isFault_of_opensNode opens
  obtain ⟨head, behind, begins, headSound, headKind⟩ := exists_head_of_separator starts sound
  have unclosed : head ≠ .flowSequenceEnd := by
    rcases headKind with rfl | rfl
    · exact ne_of_opensNode opens rfl
    · exact nofun
  rw [flowItems, bind_eq (accept_other begins headSound unclosed)]
  refine (passSeparator starts _).trans ?_
  refine (bind_eq (accept_other rfl sound (ne_of_opensNode opens rfl))).trans ?_
  refine (bind_eq (accept_other rfl sound (ne_of_opensNode opens rfl))).trans ?_
  refine (bind_eq made).trans ?_
  exact bind_eq others

theorem flowEntries_closed (first : Bool) (starts : state.tokens = .flowMappingEnd :: rest)
    (fuel : Nat) :
    flowEntries first (fuel + 1) state = .ok ([], { state with tokens := rest }) := by
  rw [flowEntries, bind_eq (accept_same starts rfl)]
  rfl

theorem nodeUnless_eq_node {stops : List Token} (starts : state.tokens = token :: rest)
    (sound : isFault token = false) (onwards : stops.contains token = false) (fuel : Nat) :
    nodeUnless false false stops (fuel + 1) state = node false false fuel state := by
  have other : nextIsOneOf stops state = .ok (false, state) := by
    rw [nextIsOneOf, bind_eq (peek_eq starts sound), Option.any_some, onwards]
    rfl
  rw [nodeUnless, bind_eq other]
  rfl

/-- An entry is its key, which is a text in quotes, and its value. -/
theorem flowEntries_entry {first : Bool} {name : String}
    (starts : state.tokens = separator first ++ .key :: .scalar name false ::
      .value :: token :: rest)
    (opens : opensNode token = true) {fuel value : Nat} {entries : List (Nat × Nat)}
    {middle after : Composition}
    (made : node false false (fuel + 2) { state with
      tokens := token :: rest
      nodes := state.nodes.push (.scalar .str name) } = .ok (value, middle))
    (others : flowEntries false (fuel + 3) middle = .ok (entries, after)) :
    flowEntries first (fuel + 4) state = .ok ((state.nodes.size, value) :: entries, after) := by
  obtain ⟨head, behind, begins, headSound, headKind⟩ := exists_head_of_separator starts rfl
  have unclosed : head ≠ .flowMappingEnd := by
    rcases headKind with rfl | rfl <;> exact nofun
  have sound := isFault_of_opensNode opens
  have onwards : [Token.flowEntry, .flowMappingEnd].contains token = false := by
    cases token <;> first | rfl | contradiction
  have keyed : nodeUnless false false [.value, .flowEntry, .flowMappingEnd] (fuel + 3)
      { state with tokens := .scalar name false :: .value :: token :: rest } =
        .ok (state.nodes.size, { state with
          tokens := .value :: token :: rest
          nodes := state.nodes.push (.scalar .str name) }) := by
    rw [nodeUnless_eq_node rfl rfl rfl]
    exact node_of_content rfl rfl
      (@content_scalar _ (.value :: token :: rest) name false rfl false false fuel)
  rw [flowEntries, bind_eq (accept_other begins headSound unclosed)]
  refine (passSeparator starts _).trans ?_
  refine (bind_eq (accept_same rfl rfl)).trans ?_
  refine (bind_eq keyed).trans ?_
  refine (bind_eq (accept_same rfl rfl)).trans ?_
  refine (bind_eq ((nodeUnless_eq_node rfl sound onwards (fuel + 2)).trans made)).trans ?_
  exact bind_eq others

end Composing

/-! ## Rows of nodes -/

theorem lt_size_of_getElem? {nodes : Array Node} {place : Nat} {node : Node}
    (found : nodes[place]? = some node) : place < nodes.size :=
  (Array.getElem?_eq_some_iff.mp found).1

/-- A node whose parts stand in front of it, without merge keys and marks of own values; each key is
a text. -/
inductive Node.IsBuilt (nodes : Array Node) (place : Nat) : Node → Prop where
  | scalar {tag : Tag} {text : String} {value : Value} (reads : Scalar.value tag text = .ok value) :
    IsBuilt nodes place (.scalar tag text)
  | sequence {items : List Nat} (behind : ∀ item ∈ items, item < place) :
    IsBuilt nodes place (.sequence .seq items)
  | mapping {entries : List (Nat × Nat)}
    (behind : ∀ entry ∈ entries, entry.1 < place ∧ entry.2 < place)
      (named : ∀ entry ∈ entries, ∃ name, nodes[entry.1]? = some (.scalar .str name)) :
    IsBuilt nodes place (.mapping .map entries)

/-- A row of such nodes. -/
def IsRow (nodes : Array Node) : Prop :=
  ∀ (place : Nat) (node : Node), nodes[place]? = some node → node.IsBuilt nodes place

/-- One row goes on from another. -/
def Extends (nodes more : Array Node) : Prop :=
  ∀ (place : Nat) (node : Node), nodes[place]? = some node → more[place]? = some node

namespace Extends

variable {nodes more last : Array Node}

theorem refl (nodes : Array Node) : Extends nodes nodes :=
  fun _ _ found => found

theorem trans (first : Extends nodes more) (second : Extends more last) : Extends nodes last :=
  fun place node found => second place node (first place node found)

theorem push (nodes : Array Node) (node : Node) : Extends nodes (nodes.push node) := by
  intro place found known
  have inside := (Array.getElem?_eq_some_iff.mp known).1
  rw [Array.getElem?_push_lt inside]
  rw [Array.getElem?_eq_getElem inside] at known
  exact known

end Extends

theorem isBuilt_mono {nodes more : Array Node} (extended : Extends nodes more)
    {place : Nat} {node : Node}
    (built : node.IsBuilt nodes place) : node.IsBuilt more place := by
  cases built with
  | scalar reads => exact .scalar reads
  | sequence behind => exact .sequence behind
  | mapping behind named =>
      exact .mapping behind fun entry member =>
        (named entry member).imp fun _ found => extended _ _ found

theorem IsRow.push {nodes : Array Node} (row : IsRow nodes) {node : Node}
    (built : node.IsBuilt nodes nodes.size) : IsRow (nodes.push node) := by
  intro place found known
  have extended := Extends.push nodes node
  rw [Array.getElem?_push] at known
  split at known
  · next last =>
    obtain rfl := Option.some.inj known
    exact last ▸ isBuilt_mono extended built
  · exact isBuilt_mono extended (row place found known)

end ApiCompiler.Yaml

namespace ApiCompiler.Json

open Yaml Composing

/-- A word or a number, whose form tells what it stands for. -/
def plainNode (text : List Char) : Node :=
  .scalar (.ofPlain (String.ofList text)) (String.ofList text)

def textNode (pieces : List Piece) : Node :=
  .scalar .str (String.ofList (contentOf pieces))

mutual

/-- A value lies in a row as it is written, its parts in front of it. -/
def Syntax.LiesAt (nodes : Array Node) : Syntax → Nat → Prop
  | .word name _ _, place => nodes[place]? = some (plainNode name.toList)
  | .number numeral, place => nodes[place]? = some (plainNode numeral.text)
  | .string pieces, place => nodes[place]? = some (textNode pieces)
  | .emptyArray _, place => nodes[place]? = some (.sequence .seq [])
  | .array _ items, place =>
    ∃ places, nodes[place]? = some (.sequence .seq places) ∧ items.LieAt nodes places
  | .emptyObject _, place => nodes[place]? = some (.mapping .map [])
  | .object _ entries, place =>
    ∃ places, nodes[place]? = some (.mapping .map places) ∧ entries.LieAt nodes places

def Items.LieAt (nodes : Array Node) : Items → List Nat → Prop
  | .last item _, places => ∃ place, places = [place] ∧ item.LiesAt nodes place
  | .more item _ _ items, places =>
    ∃ place others, places = place :: others ∧ item.LiesAt nodes place ∧ items.LieAt nodes others

def Entries.LieAt (nodes : Array Node) : Entries → List (Nat × Nat) → Prop
  | .last key _ _ value _, places =>
    ∃ name place, places = [(name, place)] ∧ nodes[name]? = some (textNode key) ∧
      value.LiesAt nodes place
  | .more key _ _ value _ _ entries, places =>
    ∃ name place others, places = (name, place) :: others ∧ nodes[name]? = some (textNode key) ∧
      value.LiesAt nodes place ∧ entries.LieAt nodes others

end

mutual

theorem Syntax.LiesAt.mono {nodes more : Array Node} (extended : Extends nodes more) :
    ∀ {written : Syntax} {place : Nat}, written.LiesAt nodes place → written.LiesAt more place
  | .word .., _, lies => extended _ _ lies
  | .number _, _, lies => extended _ _ lies
  | .string _, _, lies => extended _ _ lies
  | .emptyArray _, _, lies => extended _ _ lies
  | .array _ _, _, ⟨places, own, items⟩ => ⟨places, extended _ _ own, items.mono extended⟩
  | .emptyObject _, _, lies => extended _ _ lies
  | .object _ _, _, ⟨places, own, entries⟩ => ⟨places, extended _ _ own, entries.mono extended⟩

theorem Items.LieAt.mono {nodes more : Array Node} (extended : Extends nodes more) :
    ∀ {written : Items} {places : List Nat}, written.LieAt nodes places → written.LieAt more places
  | .last .., _, ⟨place, single, item⟩ => ⟨place, single, item.mono extended⟩
  | .more .., _, ⟨place, others, split, item, items⟩ =>
    ⟨place, others, split, item.mono extended, items.mono extended⟩

theorem Entries.LieAt.mono {nodes more : Array Node} (extended : Extends nodes more) :
    ∀ {written : Entries} {places : List (Nat × Nat)}, written.LieAt nodes places →
      written.LieAt more places
  | .last .., _, ⟨name, place, single, key, value⟩ =>
    ⟨name, place, single, extended _ _ key, value.mono extended⟩
  | .more .., _, ⟨name, place, others, split, key, value, entries⟩ =>
    ⟨name, place, others, split, extended _ _ key, value.mono extended, entries.mono extended⟩

end

theorem Syntax.LiesAt.lt_size {nodes : Array Node} {written : Syntax} {place : Nat}
    (lies : written.LiesAt nodes place) : place < nodes.size := by
  cases written with
  | array _ _ => exact lt_size_of_getElem? lies.choose_spec.1
  | object _ _ => exact lt_size_of_getElem? lies.choose_spec.1
  | _ => exact lt_size_of_getElem? lies

theorem Items.LieAt.lt_size {nodes : Array Node} : ∀ {written : Items} {places : List Nat},
    written.LieAt nodes places → ∀ place ∈ places, place < nodes.size
  | .last .., _, ⟨_, rfl, item⟩ => List.forall_mem_singleton.mpr item.lt_size
  | .more .., _, ⟨_, _, rfl, item, items⟩ => List.forall_mem_cons.mpr ⟨item.lt_size, items.lt_size⟩

/-- The keys of entries are texts, and keys and values lie in the row. -/
theorem Entries.LieAt.within {nodes : Array Node} :
    ∀ {written : Entries} {places : List (Nat × Nat)}, written.LieAt nodes places →
      ∀ entry ∈ places, (entry.1 < nodes.size ∧ entry.2 < nodes.size) ∧
        ∃ name, nodes[entry.1]? = some (.scalar .str name)
  | .last .., _, ⟨_, _, rfl, key, value⟩ =>
    List.forall_mem_singleton.mpr ⟨⟨lt_size_of_getElem? key, value.lt_size⟩, _, key⟩
  | .more .., _, ⟨_, _, _, rfl, key, value, entries⟩ =>
    List.forall_mem_cons.mpr ⟨⟨⟨lt_size_of_getElem? key, value.lt_size⟩, _, key⟩, entries.within⟩

/-- A word of YAML or, where it is none, a text. -/
def wordValue (name : String) : Value → Value
  | .float _ => .str name
  | value => value

theorem value_word {name : String} {value : Value} (named : (name, value) ∈ namedValues) :
    Scalar.value (.ofPlain (String.ofList name.toList)) (String.ofList name.toList) =
      .ok (wordValue name value) := by
  simp only [namedValues, List.mem_cons, Prod.mk.injEq, List.not_mem_nil, or_false] at named
  obtain ⟨rfl, rfl⟩ | ⟨rfl, rfl⟩ | ⟨rfl, rfl⟩ | ⟨rfl, rfl⟩ | ⟨rfl, rfl⟩ | ⟨rfl, rfl⟩ := named
  all_goals rfl

/-! ## Making nodes -/

/-- What making nodes leaves of the tokens and adds to the row. -/
structure Makes (before : Composition) (rest : List Token) (after : Composition) : Prop where
  tokens : after.tokens = rest
  grows : Extends before.nodes after.nodes
  row : IsRow before.nodes → IsRow after.nodes

theorem makes_push {before : Composition} {node : Node} (rest : List Token)
    (built : IsRow before.nodes → node.IsBuilt before.nodes before.nodes.size) :
    Makes before rest { before with tokens := rest, nodes := before.nodes.push node } where
  tokens := rfl
  grows := Extends.push _ _
  row := fun row => row.push (built row)

/-- The tokens of a value begin a node. -/
theorem Syntax.exists_tokens_eq_cons (written : Syntax) :
    ∃ first rest, written.tokens = first :: rest ∧ opensNode first = true := by
  cases written <;> exact ⟨_, _, rfl, rfl⟩

theorem isBuilt_textNode (pieces : List Piece) (nodes : Array Node) (place : Nat) :
    (textNode pieces).IsBuilt nodes place :=
  .scalar (show Scalar.value .str (String.ofList (contentOf pieces)) =
    .ok (textValue pieces) from rfl)

theorem ofScalar_plain (text : String) : Tag.ofScalar none true text = .ofPlain text := by
  rw [Tag.ofScalar, if_pos rfl]

/-- A scalar without anchor and tag makes a node of its own. -/
theorem exists_scalarNode {state : Composition} {text : String} {plain : Bool}
    {tag : Tag} {value : Value}
    {rest : List Token} (tagged : Tag.ofScalar none plain text = tag)
    (reads : Scalar.value tag text = .ok value) (starts : state.tokens = .scalar text plain :: rest)
    {fuel : Nat} (enough : 4 ≤ fuel) (inBlock indentless : Bool) :
    ∃ place after, node inBlock indentless fuel state = .ok (place, after) ∧
      Makes state rest after ∧
      after.nodes[place]? = some (.scalar tag text) ∧ after.nodes.size = place + 1 := by
  subst tagged
  obtain ⟨fuel, rfl⟩ := Nat.exists_eq_add_of_le' enough
  refine ⟨state.nodes.size, _, ?_, makes_push rest fun _ => .scalar reads, ?_, ?_⟩
  · exact node_of_content starts rfl (content_scalar starts inBlock indentless _)
  · exact Array.getElem?_push_size
  · exact Array.size_push _

/-- A container is made behind its parts. -/
theorem Makes.push {state after : Composition} {behind rest : List Token} {node : Node}
    (makes : Makes { state with tokens := behind } rest after)
    (built : node.IsBuilt after.nodes after.nodes.size) :
    Makes state rest { after with nodes := after.nodes.push node } where
  tokens := makes.tokens
  grows := makes.grows.trans (Extends.push _ _)
  row := fun row => (makes.row row).push built

section Parts

variable {state middle after : Composition} {first : Bool} {behind : List Token} {fuel place : Nat}
  {written : Syntax}

theorem flowItems_of_node (starts : state.tokens = separator first ++ (written.tokens ++ behind))
    (made : node false false fuel { state with tokens := written.tokens ++ behind } =
      .ok (place, middle))
    {places : List Nat} (others : flowItems false fuel middle = .ok (places, after)) :
    flowItems first (fuel + 1) state = .ok (place :: places, after) := by
  obtain ⟨token, tail, split, opens⟩ := written.exists_tokens_eq_cons
  rw [split] at starts made
  exact flowItems_item starts opens made others

theorem flowEntries_of_node {key : List Piece}
    (starts : state.tokens =
      separator first ++ .key :: stringToken key :: .value :: (written.tokens ++ behind))
    (made : node false false (fuel + 2) { state with
      tokens := written.tokens ++ behind
      nodes := state.nodes.push (textNode key) } = .ok (place, middle))
    {places : List (Nat × Nat)} (others : flowEntries false (fuel + 3) middle =
      .ok (places, after)) :
    flowEntries first (fuel + 4) state = .ok ((state.nodes.size, place) :: places, after) := by
  obtain ⟨token, tail, split, opens⟩ := written.exists_tokens_eq_cons
  rw [split] at starts made
  exact flowEntries_entry starts opens made others

end Parts

mutual

/-- The tokens of a value make a node in which the value lies. -/
theorem exists_node : ∀ (written : Syntax) {state : Composition} {rest : List Token} {fuel : Nat},
    written.Portable → state.tokens = written.tokens ++ rest → 4 * written.tokens.length ≤ fuel →
      ∀ inBlock indentless, ∃ place after, node inBlock indentless fuel state = .ok (place, after) ∧
        Makes state rest after ∧ written.LiesAt after.nodes place ∧ after.nodes.size = place + 1
  | .word _ _ named, _, _, _, _, starts, enough, inBlock, indentless =>
    exists_scalarNode (ofScalar_plain _) (value_word named) starts enough inBlock indentless
  | .number _, _, _, _, portable, starts, enough, inBlock, indentless =>
    exists_scalarNode (ofScalar_plain _) (value_numeral portable) starts enough inBlock indentless
  | .string _, _, _, _, _, starts, enough, inBlock, indentless =>
    exists_scalarNode rfl rfl starts enough inBlock indentless
  | .emptyArray _, state, rest, fuel, _, starts, enough, inBlock, indentless => by
    obtain ⟨fuel, rfl⟩ := Nat.exists_eq_add_of_le' enough
    have closed :=
      @flowItems_closed { state with tokens := .flowSequenceEnd :: rest } rest true rfl (fuel + 5)
    refine ⟨_, _, node_of_content starts rfl (content_sequence starts closed), ?_,
      Array.getElem?_push_size, Array.size_push _⟩
    exact makes_push rest fun _ => .sequence (List.forall_mem_nil _)
  | .array _ items, state, rest, fuel, portable, starts, enough, inBlock, indentless => by
    obtain ⟨fuel, rfl⟩ := Nat.exists_eq_add_of_le' (show 2 ≤ fuel by
      simp only [Syntax.tokens, List.length_cons] at enough
      omega)
    have within : 4 * items.tokens.length ≤ fuel := by
      simp only [Syntax.tokens, List.length_cons] at enough
      omega
    obtain ⟨places, after, taken, makes, lie⟩ :=
      @exists_flowItems items true { state with tokens :=
        items.tokens ++ rest } rest fuel portable.2 rfl
        within
    refine ⟨_, _, node_of_content starts rfl (content_sequence starts taken),
      makes.push (.sequence lie.lt_size), ⟨places, Array.getElem?_push_size, ?_⟩, Array.size_push _⟩
    exact lie.mono (Extends.push _ _)
  | .emptyObject _, state, rest, fuel, _, starts, enough, inBlock, indentless => by
    obtain ⟨fuel, rfl⟩ := Nat.exists_eq_add_of_le' enough
    have closed :=
      @flowEntries_closed { state with tokens := .flowMappingEnd :: rest } rest true rfl (fuel + 5)
    refine ⟨_, _, node_of_content starts rfl (content_mapping starts closed), ?_,
      Array.getElem?_push_size, Array.size_push _⟩
    exact makes_push rest fun _ => .mapping (List.forall_mem_nil _) (List.forall_mem_nil _)
  | .object _ entries, state, rest, fuel, portable, starts, enough, inBlock, indentless => by
    obtain ⟨fuel, rfl⟩ := Nat.exists_eq_add_of_le' (show 2 ≤ fuel by
      simp only [Syntax.tokens, List.length_cons] at enough
      omega)
    have within : 4 * entries.tokens.length ≤ fuel := by
      simp only [Syntax.tokens, List.length_cons] at enough
      omega
    obtain ⟨places, after, taken, makes, lie⟩ :=
      @exists_flowEntries entries true { state with tokens :=
        entries.tokens ++ rest } rest fuel portable.2
        rfl within
    have parts := lie.within
    refine ⟨_, _, node_of_content starts rfl (content_mapping starts taken),
      makes.push (.mapping (fun entry member => (parts entry member).1)
        fun entry member => (parts entry member).2),
      ⟨places, Array.getElem?_push_size, ?_⟩, Array.size_push _⟩
    exact lie.mono (Extends.push _ _)

theorem exists_flowItems :
    ∀ (written : Items) (first : Bool) {state : Composition} {rest : List Token}
    {fuel : Nat}, written.Portable → state.tokens = separator first ++ (written.tokens ++ rest) →
      4 * written.tokens.length ≤ fuel →
        ∃ places after, flowItems first fuel state = .ok (places, after) ∧ Makes state rest after ∧
          written.LieAt after.nodes places
  | .last item _, first, state, rest, fuel, portable, starts, enough => by
    simp only [Items.tokens, List.length_append, List.length_singleton] at enough
    obtain ⟨fuel, rfl⟩ := Nat.exists_eq_add_of_le' (show 2 ≤ fuel by omega)
    rw [Items.tokens, List.append_assoc] at starts
    obtain ⟨place, middle, made, makes, lies, -⟩ :=
      @exists_node item { state with tokens := item.tokens ++ (.flowSequenceEnd :: rest) }
        (.flowSequenceEnd :: rest) (fuel + 1) portable.1 rfl (by omega) false false
    refine ⟨[place], _,
      flowItems_of_node starts made (flowItems_closed false makes.tokens fuel), ?_,
      place, rfl, lies⟩
    exact ⟨rfl, makes.grows, makes.row⟩
  | .more item _ _ items, first, state, rest, fuel, portable, starts, enough => by
    simp only [Items.tokens, List.length_append, List.length_cons] at enough
    obtain ⟨fuel, rfl⟩ := Nat.exists_eq_add_of_le' (show 1 ≤ fuel by omega)
    rw [Items.tokens, List.append_assoc, List.cons_append] at starts
    obtain ⟨place, middle, made, makes, lies, -⟩ :=
      @exists_node item { state with tokens :=
        item.tokens ++ (.flowEntry :: (items.tokens ++ rest)) }
        (.flowEntry :: (items.tokens ++ rest)) fuel portable.1 rfl (by omega) false false
    obtain ⟨places, after, taken, further, lie⟩ :=
      @exists_flowItems items false middle rest fuel portable.2.2.2 makes.tokens (by omega)
    refine ⟨place :: places, after, flowItems_of_node starts made taken, ?_, place, places, rfl,
      lies.mono further.grows, lie⟩
    exact ⟨further.tokens, makes.grows.trans further.grows, fun row => further.row (makes.row row)⟩

theorem exists_flowEntries : ∀ (written : Entries) (first : Bool) {state : Composition}
    {rest : List Token} {fuel : Nat}, written.Portable →
      state.tokens = separator first ++ (written.tokens ++ rest) →
        4 * written.tokens.length ≤ fuel →
        ∃ places after, flowEntries first fuel state = .ok (places, after) ∧
          Makes state rest after ∧
          written.LieAt after.nodes places
  | .last key _ _ value _, first, state, rest, fuel, portable, starts, enough => by
    simp only [Entries.tokens, List.length_cons, List.length_append, List.length_nil] at enough
    obtain ⟨fuel, rfl⟩ := Nat.exists_eq_add_of_le' (show 4 ≤ fuel by omega)
    simp only [Entries.tokens, List.cons_append, List.append_assoc, List.nil_append] at starts
    obtain ⟨place, middle, made, makes, lies, -⟩ :=
      @exists_node value { state with
        tokens := value.tokens ++ (.flowMappingEnd :: rest)
        nodes := state.nodes.push (textNode key) }
        (.flowMappingEnd :: rest) (fuel + 2) portable.2.2.1 rfl (by omega) false false
    refine ⟨[(state.nodes.size, place)], _,
      flowEntries_of_node starts made (flowEntries_closed false makes.tokens (fuel + 2)), ?_,
      _, place, rfl, makes.grows _ _ Array.getElem?_push_size, lies⟩
    exact ⟨rfl, (Extends.push _ _).trans makes.grows,
      fun row => makes.row (row.push (isBuilt_textNode ..))⟩
  | .more key _ _ value _ _ entries, first, state, rest, fuel, portable, starts, enough => by
    simp only [Entries.tokens, List.length_cons, List.length_append] at enough
    obtain ⟨fuel, rfl⟩ := Nat.exists_eq_add_of_le' (show 4 ≤ fuel by omega)
    simp only [Entries.tokens, List.cons_append, List.append_assoc] at starts
    obtain ⟨place, middle, made, makes, lies, -⟩ :=
      @exists_node value { state with
        tokens := value.tokens ++ (.flowEntry :: (entries.tokens ++ rest))
        nodes := state.nodes.push (textNode key) }
        (.flowEntry :: (entries.tokens ++ rest)) (fuel + 2) portable.2.2.1 rfl
          (by omega) false false
    obtain ⟨places, after, taken, further, lie⟩ :=
      @exists_flowEntries entries false middle rest
        (fuel + 3) portable.2.2.2.2.2 makes.tokens (by omega)
    have named := further.grows _ _ (makes.grows _ _ Array.getElem?_push_size)
    refine ⟨(state.nodes.size, place) :: places, after, flowEntries_of_node starts made taken, ?_,
      _, place, places, rfl, named, lies.mono further.grows, lie⟩
    exact ⟨further.tokens, (Extends.push _ _).trans (makes.grows.trans further.grows),
      fun row => further.row (makes.row (row.push (isBuilt_textNode ..)))⟩

end

theorem expectEnd_eq {state : Composition} (starts : state.tokens = [.streamEnd]) (fuel : Nat) :
    ∃ after, expectEnd (fuel + 1) state = .ok ((), after) ∧ after.nodes = state.nodes := by
  refine ⟨{ state with tokens := [] }, ?_, rfl⟩
  have none : skipDocumentEnds (fuel + 1) state = .ok ((), state) := by
    rw [skipDocumentEnds, bind_eq (accept_other starts rfl (by decide))]
    rfl
  rw [expectEnd, bind_eq none, bind_eq (accept_same starts rfl)]
  rfl

theorem exists_document {state : Composition} {written : Syntax} (portable : written.Portable)
    (starts : state.tokens = written.tokens ++ [.streamEnd]) {fuel : Nat}
    (enough : 4 * written.tokens.length ≤ fuel) :
    ∃ place after, document (fuel + 1) state = .ok (some place, after) ∧
      (IsRow state.nodes → IsRow after.nodes) ∧ written.LiesAt after.nodes place := by
  obtain ⟨place, middle, made, makes, lies, -⟩ :=
    @exists_node written state [.streamEnd] (fuel + 1) portable starts (by omega) true false
  obtain ⟨after, ended, same⟩ := expectEnd_eq makes.tokens fuel
  refine ⟨place, after, ?_, same ▸ makes.row, same ▸ lies⟩
  obtain ⟨token, tail, split, opens⟩ := written.exists_tokens_eq_cons
  rw [split] at starts
  have running : (some token == some Token.streamEnd) = false :=
    beq_eq_false_iff_ne.mpr fun eq => ne_of_opensNode opens rfl (Option.some.inj eq)
  have unmarked :
      ((some token).any isDirective || some token == some Token.documentStart) = false := by
    cases token <;> first | rfl | contradiction
  rw [document, bind_eq (peek_eq starts (isFault_of_opensNode opens)), running, unmarked]
  exact (bind_eq made).trans (bind_eq ended)

/-- The tokens of a value make a row of nodes in which it lies at the root. -/
theorem exists_nodesOf {written : Syntax} (portable : written.Portable) :
    ∃ nodes place, nodesOf (written.tokens ++ [.streamEnd]) = .ok (some place, nodes) ∧
      IsRow nodes ∧
      written.LiesAt nodes place := by
  have enough : 4 * written.tokens.length ≤ 4 *
    (written.tokens ++ [Token.streamEnd]).length + 3 := by
    rw [List.length_append]
    omega
  obtain ⟨place, after, made, row, lies⟩ :=
    @exists_document ⟨written.tokens ++ [.streamEnd], knownHandles, [],
      #[]⟩ written portable rfl _ enough
  refine ⟨after.nodes, place, ?_, row fun place node known => ?_, lies⟩
  · change (fun reached : Option Nat × Composition => (reached.1, reached.2.nodes)) <$>
      document _ _ = _
    rw [made]
    rfl
  · simp at known

end ApiCompiler.Json
