import ApiCompiler.Proofs.Yaml.Node
import ApiCompiler.Yaml.Content

/-!
# Values of rows

What a row of nodes without merge keys stands for. Every node that is made gets a form that fits it,
every container that waits is filled on a later level, and all its parts are made then. The levels
end, since the parts of a node stand in front of it; for the same reason none is cut.
-/

namespace ApiCompiler.Yaml

open Growing

/-- The form that a node has got. -/
def Growth.formOf (growth : Growth) (place : Nat) : Option Form :=
  (growth.forms[place]?).join

def IsContainer (nodes : Array Node) (place : Nat) : Prop :=
  (∃ items, nodes[place]? = some (.sequence .seq items)) ∨
    ∃ entries, nodes[place]? = some (.mapping .map entries)

/-- The key that a text is. -/
def keyAt (nodes : Array Node) (place : Nat) : Key :=
  match nodes[place]? with
  | some (.scalar _ text) => ⟨.str text, if Scalar.namesUndefined text then 0 else place + 1⟩
  | _ => ⟨.null, 0⟩

/-- The entries of a mapping whose keys are texts. -/
def keyed (nodes : Array Node) (entries : List (Nat × Nat)) : List (Key × Nat) :=
  entries.foldl (fun made entry => insert made (keyAt nodes entry.1) entry.2) []

/-- A form that a node may have. -/
inductive Form.Fits (nodes : Array Node) (place : Nat) : Form → Prop where
  | value {tag : Tag} {text : String} {value : Value}
    (own : nodes[place]? = some (.scalar tag text))
      (reads : Scalar.value tag text = .ok value) : Fits nodes place (.value value)
  | unfilled (container : IsContainer nodes place) : Fits nodes place .unfilled
  | list {items : List Nat} (own : nodes[place]? = some (.sequence .seq items)) :
    Fits nodes place (.list items)
  | map {entries : List (Nat × Nat)} (own : nodes[place]? = some (.mapping .map entries)) :
    Fits nodes place (.map (keyed nodes entries))

/-- The parts of a container, without the keys of a mapping. -/
def partsAt (nodes : Array Node) (place : Nat) : List Nat :=
  match nodes[place]? with
  | some (.sequence _ items) => items
  | some (.mapping _ entries) => entries.map (·.2)
  | _ => []

/-- What holds between steps: forms fit, what is filled has parts with forms, and what is not filled
is still to do. -/
structure Growth.Sound (nodes : Array Node) (level : List Nat) (growth : Growth) : Prop where
  row : growth.nodes = nodes
  size : growth.forms.size = nodes.size
  fits : ∀ place form, growth.formOf place = some form → form.Fits nodes place
  parts : ∀ place form, growth.formOf place = some form →
    form = .unfilled ∨ ∀ part ∈ partsAt nodes place, (growth.formOf part).isSome = true
  pending : ∀ place, growth.formOf place = some .unfilled → place ∈ level ∨ place ∈ growth.waiting
  containers : ∀ place ∈ growth.waiting, IsContainer nodes place

/-- Steps that take no node its form; only nodes in front of a bound are left waiting. -/
structure Grows (bound : Nat) (before after : Growth) : Prop where
  made : ∀ place, (before.formOf place).isSome = true → (after.formOf place).isSome = true
  waits : ∀ place ∈ after.waiting, place ∈ before.waiting ∨ place < bound

theorem Grows.refl (bound : Nat) (growth : Growth) : Grows bound growth growth :=
  ⟨fun _ known => known, fun _ => Or.inl⟩

theorem Grows.trans {bound : Nat} {before middle after : Growth} (first : Grows bound before middle)
    (second : Grows bound middle after) : Grows bound before after where
  made place known := second.made place (first.made place known)
  waits place waiting := (second.waits place waiting).elim (first.waits place) Or.inr

theorem Grows.weaken {bound more : Nat} {before after : Growth} (grows : Grows bound before after)
    (within : bound ≤ more) : Grows more before after where
  made := grows.made
  waits place waiting := (grows.waits place waiting).imp_right fun behind => behind.trans_le within

variable {nodes : Array Node} {level : List Nat} {growth : Growth} {place : Nat}

theorem nodeAt_eq {node : Node} (sound : growth.Sound nodes level)
    (found : nodes[place]? = some node) :
    nodeAt place growth = .ok (node, growth) := by
  unfold nodeAt
  rw [bind_eq (show (get : Growing Growth) growth = .ok (growth, growth) from rfl),
    sound.row, found]
  rfl

theorem formAt?_eq : formAt? place growth = .ok (growth.formOf place, growth) :=
  rfl

def Node.tag : Node → Tag
  | .scalar tag _ => tag
  | .sequence tag _ => tag
  | .mapping tag _ => tag

theorem tagAt_eq {node : Node} (sound : growth.Sound nodes level)
    (found : nodes[place]? = some node) :
    tagAt place growth = .ok (node.tag, growth) := by
  unfold tagAt
  rw [bind_eq (nodeAt_eq sound found)]
  cases node <;> rfl

/-- The state after a node has got a form, with other nodes waiting. -/
def Growth.put (growth : Growth) (place : Nat) (form : Form) (waiting : List Nat) : Growth :=
  { growth with forms := growth.forms.setIfInBounds place (some form), waiting }

section Put

variable {form : Form} {waiting : List Nat}

theorem formOf_put (sound : growth.Sound nodes level) (inside : place < nodes.size) (other : Nat) :
    (growth.put place form waiting).formOf other =
      if other = place then some form else growth.formOf other := by
  rw [Growth.formOf, Growth.put, Array.getElem?_setIfInBounds, sound.size, if_pos inside]
  by_cases own : other = place
  · rw [if_pos own.symm, if_pos own]
    rfl
  · rw [if_neg (Ne.symm own), if_neg own, Growth.formOf]

theorem isSome_put (sound : growth.Sound nodes level) (inside : place < nodes.size) {other : Nat}
    (known : (growth.formOf other).isSome = true) :
    ((growth.put place form waiting).formOf other).isSome = true := by
  rw [formOf_put sound inside]
  split
  · rfl
  · exact known

/-- A form that fits is put on a node. A container without its parts has to wait. -/
theorem sound_put (sound : growth.Sound nodes (place :: level)) (inside : place < nodes.size)
    (fits : form.Fits nodes place)
    (parts : form = .unfilled ∨ ∀ part ∈ partsAt nodes place, (growth.formOf part).isSome = true)
    (pending : form = .unfilled → place ∈ waiting) (kept : growth.waiting ⊆ waiting)
    (containers : ∀ other ∈ waiting, IsContainer nodes other) :
    (growth.put place form waiting).Sound nodes level := by
  refine ⟨sound.row, (Array.size_setIfInBounds ..).trans sound.size, fun other found known => ?_,
    fun other found known => ?_, fun other known => ?_, containers⟩
  · rw [formOf_put sound inside] at known
    split at known
    · next own =>
      obtain rfl := Option.some.inj known
      exact own ▸ fits
    · exact sound.fits other found known
  · rw [formOf_put sound inside] at known
    split at known
    · next own =>
      obtain rfl := Option.some.inj known
      exact parts.imp_right fun made part member =>
        isSome_put sound inside (made part (own ▸ member))
    · exact (sound.parts other found known).imp_right fun made part member =>
        isSome_put sound inside (made part member)
  · rw [formOf_put sound inside] at known
    split at known
    · next own => exact Or.inr (own ▸ pending (Option.some.inj known))
    · next differs =>
      obtain later | waits := sound.pending other known
      · exact Or.inl ((List.mem_cons.mp later).resolve_left differs)
      · exact Or.inr (kept waits)

theorem Growth.Sound.cons (sound : growth.Sound nodes level) (place : Nat) :
    growth.Sound nodes (place :: level) :=
  { sound with pending := fun other known =>
      (sound.pending other known).imp_left (List.mem_cons_of_mem place) }

theorem grows_put (sound : growth.Sound nodes level) (inside : place < nodes.size) {bound : Nat}
    (waits : ∀ other ∈ waiting, other ∈ growth.waiting ∨ other < bound) :
    Grows bound growth (growth.put place form waiting) where
  made _ known := isSome_put sound inside known
  waits := waits

end Put

theorem textAt_eq {tag : Tag} {text : String} (sound : growth.Sound nodes level)
    (own : nodes[place]? = some (.scalar tag text)) (fuel : Nat) :
    textAt (fuel + 1) place growth = .ok (text, growth) := by
  rw [textAt, bind_eq (nodeAt_eq sound own)]
  rfl

theorem scalarValue_eq {tag : Tag} {text : String} {value : Value}
    (sound : growth.Sound nodes level)
    (own : nodes[place]? = some (.scalar tag text)) (reads : Scalar.value tag text = .ok value) :
    scalarValue tag place growth = .ok (value, growth) := by
  rw [scalarValue, bind_eq (show (get : Growing Growth) growth = .ok (growth, growth) from rfl)]
  refine (bind_eq (textAt_eq sound own _)).trans ((bind_eq (nodeAt_eq sound own)).trans ?_)
  have read : (liftM (Scalar.value tag text) : Growing Value) growth = .ok (value, growth) := by
    rw [reads]
    rfl
  cases tag <;> exact read

theorem partsAt_scalar {tag : Tag} {text : String} (own : nodes[place]? = some (.scalar tag text)) :
    partsAt nodes place = [] := by
  rw [partsAt, own]

theorem isContainer_or_scalar (row : IsRow nodes) (inside : place < nodes.size) :
    (IsContainer nodes place ∧ ∃ node, nodes[place]? = some node ∧
      [.seq, .map, .set, .omap, .pairs].contains node.tag = true) ∨
    ∃ tag text value, nodes[place]? = some (.scalar tag text) ∧ Scalar.value tag text = .ok value ∧
      [Tag.seq, .map, .set, .omap, .pairs].contains tag = false := by
  have found := Array.getElem?_eq_getElem inside
  generalize nodes[place] = node at found
  cases row place node found with
  | scalar reads =>
      refine Or.inr ⟨_, _, _, found, reads, ?_⟩
      rename_i tag text value
      cases tag <;> first | rfl | contradiction
  | sequence => exact Or.inl ⟨Or.inl ⟨_, found⟩, _, found, rfl⟩
  | mapping => exact Or.inl ⟨Or.inr ⟨_, found⟩, _, found, rfl⟩

/-- Making a node gives it a form. -/
theorem exists_make (row : IsRow nodes) (sound : growth.Sound nodes level)
    (inside : place < nodes.size)
    {bound : Nat} (below : place < bound) :
    ∃ after, make place growth = .ok ((), after) ∧ after.Sound nodes level ∧
      Grows bound growth after ∧
      (after.formOf place).isSome = true := by
  unfold make
  rw [bind_eq (@formAt?_eq growth place)]
  cases none : growth.formOf place with
  | some form => exact ⟨growth, rfl, sound, .refl bound growth, by rw [none]; rfl⟩
  | none =>
      rw [Option.isNone_none, if_pos rfl]
      obtain ⟨container, node, found, tagged⟩ | ⟨tag, text, value, found, reads, tagged⟩ :=
        isContainer_or_scalar row inside
      · refine ⟨growth.put place .unfilled (place :: growth.waiting), ?_, ?_, ?_, ?_⟩
        · rw [bind_eq (tagAt_eq sound found), tagged]
          rfl
        · exact sound_put (sound.cons place) inside (.unfilled container) (Or.inl rfl)
            (fun _ => List.mem_cons_self) (List.subset_cons_self _ _)
            (List.forall_mem_cons.mpr ⟨container, sound.containers⟩)
        · exact grows_put sound inside
            (List.forall_mem_cons.mpr ⟨Or.inr below, fun _ => Or.inl⟩)
        · rw [formOf_put sound inside, if_pos rfl]
          rfl
      · refine ⟨growth.put place (.value value) growth.waiting, ?_, ?_, ?_, ?_⟩
        · rw [bind_eq (tagAt_eq sound found), show (Node.scalar tag text).tag =
            tag from rfl, tagged, if_neg Bool.false_ne_true]
          exact bind_eq (scalarValue_eq sound found reads)
        · exact sound_put (sound.cons place) inside (.value found reads)
            (Or.inr (partsAt_scalar found ▸ List.forall_mem_nil _))
              nofun (List.Subset.refl _) sound.containers
        · exact grows_put sound inside fun _ => Or.inl
        · rw [formOf_put sound inside, if_pos rfl]
          rfl

/-- Making several nodes in front of a bound gives each a form. -/
theorem exists_forM_make (row : IsRow nodes) {bound : Nat} (inside : bound ≤ nodes.size)
    {items : List Nat}
    (sound : growth.Sound nodes level) (below : ∀ item ∈ items, item < bound) :
    ∃ after, items.forM make growth = .ok ((), after) ∧ after.Sound nodes level ∧
      Grows bound growth after ∧ ∀ item ∈ items, (after.formOf item).isSome = true := by
  induction items generalizing growth with
  | nil => exact ⟨growth, rfl, sound, .refl bound growth, List.forall_mem_nil _⟩
  | cons item items induction =>
      obtain ⟨own, others⟩ := List.forall_mem_cons.mp below
      obtain ⟨middle, made, keeps, grows, known⟩ := exists_make row sound (by omega) own
      obtain ⟨after, rest, keepsRest, growsRest, knownRest⟩ := induction keeps others
      refine ⟨after, ?_, keepsRest, grows.trans growsRest,
        List.forall_mem_cons.mpr ⟨growsRest.made item known, knownRest⟩⟩
      exact (bind_eq made).trans rest

theorem setIfInBounds_self {node : Node} (found : nodes[place]? = some node) :
    nodes.setIfInBounds place node = nodes := by
  refine Array.ext_getElem? fun other => ?_
  rw [Array.getElem?_setIfInBounds]
  split
  · next same => rw [if_pos (lt_size_of_getElem? found), ← same, found]
  · rfl

/-- Steps that set each item behind those before it collect them all. -/
theorem foldlM_append {σ ε α β : Type}
    {step : List β × List α → α → StateT σ (Except ε) (List β × List α)}
    {state : σ} {items : List α}
    (adds : ∀ merged own, ∀ item ∈ items,
      step (merged, own) item state = .ok ((merged, own ++ [item]), state)) (merged :
        List β) (own : List α) :
    items.foldlM step (merged, own) state = .ok ((merged, own ++ items), state) := by
  induction items generalizing own with
  | nil => rw [List.append_nil]; rfl
  | cons item items induction =>
      rw [List.foldlM_cons, bind_eq (adds merged own item List.mem_cons_self),
        induction (fun merged own other member =>
          adds merged own other (List.mem_cons_of_mem item member)),
        List.append_assoc, List.singleton_append]

/-- A mapping whose keys are texts has no entries of others. -/
theorem ownEntries_eq {entries : List (Nat × Nat)} (sound : growth.Sound nodes level)
    (own : nodes[place]? = some (.mapping .map entries))
    (named : ∀ entry ∈ entries, ∃ name, nodes[entry.1]? = some (.scalar .str name)) (fuel : Nat) :
    ownEntries (fuel + 1) place growth = .ok (entries, growth) := by
  have unchanged : putNode place (.mapping .map entries) growth = .ok ((), growth) := by
    change Except.ok ((), { growth with
      nodes := growth.nodes.setIfInBounds place (.mapping .map entries) }) = _
    rw [setIfInBounds_self (sound.row.symm ▸ own)]
  have unmerged : parted entries growth = .ok (([], entries), growth) := by
    refine foldlM_append (fun merged taken entry member => ?_) [] []
    obtain ⟨name, found⟩ := named entry member
    exact bind_eq (tagAt_eq sound found)
  rw [ownEntries, bind_eq (nodeAt_eq sound own)]
  refine (bind_eq unmerged).trans ((bind_eq unchanged).trans ?_)
  rw [List.mapM_nil, pure_bind]
  exact bind_eq unchanged

theorem Form.Fits.of_scalar {form : Form} {tag : Tag} {text : String} (fits : form.Fits nodes place)
    (own : nodes[place]? = some (.scalar tag text)) :
    ∃ value, form = .value value ∧ Scalar.value tag text = .ok value := by
  cases fits with
  | value same reads =>
      rw [own] at same
      obtain ⟨rfl, rfl⟩ := Node.scalar.inj (Option.some.inj same)
      exact ⟨_, rfl, reads⟩
  | unfilled container =>
      rcases container with ⟨_, same⟩ | ⟨_, same⟩ <;> simp [own] at same
  | list same => simp [own] at same
  | map same => simp [own] at same

theorem originAt_eq {name : String} (sound : growth.Sound nodes level)
    (own : nodes[place]? = some (.scalar .str name)) :
    originAt place growth = .ok ((keyAt nodes place).origin, growth) := by
  unfold originAt keyAt
  rw [bind_eq (nodeAt_eq sound own), own]
  rfl

theorem exists_makeKey {name : String} (row : IsRow nodes) (sound : growth.Sound nodes level)
    (own : nodes[place]? = some (.scalar .str name)) {bound : Nat} (below : place < bound) :
    ∃ after, makeKey place growth = .ok (keyAt nodes place, after) ∧ after.Sound nodes level ∧
      Grows bound growth after := by
  obtain ⟨after, made, keeps, grows, known⟩ := exists_make row sound (lt_size_of_getElem? own) below
  refine ⟨after, ?_, keeps, grows⟩
  obtain ⟨form, found⟩ := Option.isSome_iff_exists.mp known
  obtain ⟨value, rfl, reads⟩ := (keeps.fits place form found).of_scalar own
  have text : value = (keyAt nodes place).value := by
    rw [keyAt, own]
    exact (Except.ok.inj reads).symm
  unfold makeKey
  rw [bind_eq made, bind_eq (@formAt?_eq after place), found]
  refine (bind_eq (originAt_eq keeps own)).trans ?_
  rw [text]
  rfl

/-- Entries are set one after another, and their values get forms. -/
theorem exists_setEntries (row : IsRow nodes) {bound : Nat} (inside : bound ≤ nodes.size)
    {entries : List (Nat × Nat)} (sound : growth.Sound nodes level)
    (behind : ∀ entry ∈ entries, entry.1 < bound ∧ entry.2 < bound)
    (named : ∀ entry ∈ entries, ∃ name, nodes[entry.1]? = some (.scalar .str name))
    (made : List (Key × Nat)) :
    ∃ after, (entries.foldlM (fun made (key, value) => do
        let key ← makeKey key
        make value
        return insert made key value) made : Growing (List (Key × Nat))) growth =
          .ok (entries.foldl (fun made entry => insert made (keyAt nodes entry.1) entry.2) made,
            after) ∧
      after.Sound nodes level ∧ Grows bound growth after ∧
      ∀ entry ∈ entries, (after.formOf entry.2).isSome = true := by
  induction entries generalizing growth made with
  | nil => exact ⟨growth, rfl, sound, .refl bound growth, List.forall_mem_nil _⟩
  | cons entry entries induction =>
      obtain ⟨⟨name, keyed⟩, namedOthers⟩ := List.forall_mem_cons.mp named
      obtain ⟨⟨keyBehind, valueBehind⟩, behindOthers⟩ := List.forall_mem_cons.mp behind
      obtain ⟨first, madeKey, keepsKey, growsKey⟩ := exists_makeKey row sound keyed keyBehind
      obtain ⟨second, madeValue, keepsValue, growsValue, known⟩ :=
        exists_make row keepsKey (Nat.lt_of_lt_of_le valueBehind inside) valueBehind
      obtain ⟨after, rest, keeps, grows, knownRest⟩ :=
        induction keepsValue behindOthers namedOthers (insert made (keyAt nodes entry.1) entry.2)
      refine ⟨after, ?_, keeps, growsKey.trans (growsValue.trans grows),
        List.forall_mem_cons.mpr ⟨grows.made _ known, knownRest⟩⟩
      rw [List.foldlM_cons, List.foldl_cons]
      exact (bind_eq ((bind_eq madeKey).trans (bind_eq madeValue))).trans rest

theorem partsAt_sequence {tag : Tag} {items : List Nat}
    (own : nodes[place]? = some (.sequence tag items)) :
    partsAt nodes place = items := by
  rw [partsAt, own]

theorem partsAt_mapping {tag : Tag} {entries : List (Nat × Nat)}
    (own : nodes[place]? = some (.mapping tag entries)) :
      partsAt nodes place = entries.map (·.2) := by
  rw [partsAt, own]

/-- Filling a container makes its parts and is no longer to do. -/
theorem exists_fill (row : IsRow nodes) (sound : growth.Sound nodes (place :: level))
    (container : IsContainer nodes place) :
    ∃ after, fill place growth = .ok ((), after) ∧ after.Sound nodes level ∧
      Grows place growth after := by
  unfold fill
  obtain ⟨items, own⟩ | ⟨entries, own⟩ := container
  · have inside := lt_size_of_getElem? own
    cases row place _ own with
    | sequence behind =>
      obtain ⟨middle, made, keeps, grows, known⟩ := exists_forM_make row inside.le sound behind
      refine ⟨middle.put place (.list items) middle.waiting, ?_, ?_, ?_⟩
      · rw [bind_eq (tagAt_eq sound own)]
        exact (bind_eq (nodeAt_eq sound own)).trans (bind_eq made)
      · exact sound_put keeps inside (.list own) (Or.inr (partsAt_sequence own ▸ known)) nofun
          (List.Subset.refl _) keeps.containers
      · exact grows.trans (grows_put keeps inside fun _ => Or.inl)
  · have inside := lt_size_of_getElem? own
    cases row place _ own with
    | mapping behind named =>
      obtain ⟨middle, made, keeps, grows, known⟩ :=
        exists_setEntries row inside.le sound behind named []
      refine ⟨middle.put place (.map (keyed nodes entries)) middle.waiting, ?_, ?_, ?_⟩
      · rw [bind_eq (tagAt_eq sound own)]
        refine (bind_eq (nodeAt_eq sound own)).trans (bind_eq ?_)
        exact (bind_eq (ownEntries_eq sound own named growth.nodes.size)).trans made
      · refine sound_put keeps inside (.map own) (Or.inr ?_)
          nofun (List.Subset.refl _) keeps.containers
        rw [partsAt_mapping own]
        exact List.forall_mem_map.mpr known
      · exact grows.trans (grows_put keeps inside fun _ => Or.inl)

/-- Filling the containers of a level leaves nothing of it to do. -/
theorem exists_forM_fill (row : IsRow nodes) {bound : Nat} {places : List Nat}
    (sound : growth.Sound nodes places)
    (containers : ∀ place ∈ places, IsContainer nodes place ∧ place ≤ bound) :
    ∃ after, places.forM fill growth = .ok ((), after) ∧ after.Sound nodes [] ∧
      Grows bound growth after := by
  induction places generalizing growth with
  | nil => exact ⟨growth, rfl, sound, .refl bound growth⟩
  | cons place places induction =>
      obtain ⟨⟨container, within⟩, others⟩ := List.forall_mem_cons.mp containers
      obtain ⟨middle, filled, keeps, grows⟩ := exists_fill row sound container
      obtain ⟨after, rest, keepsRest, growsRest⟩ := induction keeps others
      exact ⟨after, (bind_eq filled).trans rest, keepsRest, (grows.weaken within).trans growsRest⟩

/-- As many levels as there are nodes fill all containers. -/
theorem exists_fillLevels (row : IsRow nodes) (fuel : Nat) {growth : Growth}
    (sound : growth.Sound nodes [])
    (within : ∀ place ∈ growth.waiting, place < fuel) :
    ∃ after, fillLevels fuel growth = .ok ((), after) ∧ after.Sound nodes [] ∧ after.waiting = [] ∧
      ∀ place, (growth.formOf place).isSome = true → (after.formOf place).isSome = true := by
  induction fuel generalizing growth with
  | zero =>
      exact ⟨growth, rfl, sound, List.eq_nil_iff_forall_not_mem.mpr fun place waits =>
        Nat.not_lt_zero place (within place waits), fun _ known => known⟩
  | succ fuel induction =>
      rw [fillLevels, bind_eq (show (get : Growing Growth) growth = .ok (growth, growth) from rfl)]
      cases done : growth.waiting.reverse.isEmpty with
      | true =>
          refine ⟨growth, ?_, sound, List.reverse_eq_nil_iff.mp (List.isEmpty_iff.mp done),
            fun _ known => known⟩
          rfl
      | false =>
          have level :
              ({ growth with waiting := [] } : Growth).Sound nodes growth.waiting.reverse :=
            { sound with
              pending := fun place known => Or.inl (List.mem_reverse.mpr
                ((sound.pending place known).resolve_left List.not_mem_nil))
              containers := List.forall_mem_nil _ }
          obtain ⟨middle, filled, keeps, grows⟩ := exists_forM_fill row level fun place waits =>
            have waits := List.mem_reverse.mp waits
            ⟨sound.containers place waits, Nat.le_of_lt_succ (within place waits)⟩
          obtain ⟨after, rest, keepsRest, finished, known⟩ := induction keeps fun place waits =>
            (grows.waits place waits).resolve_left List.not_mem_nil
          refine ⟨after, ?_, keepsRest, finished, fun place made =>
            known place (grows.made place made)⟩
          have emptied :
              (modify fun growth => { growth with waiting := [] } : Growing Unit) growth =
              .ok ((), { growth with waiting := [] }) := rfl
          rw [if_neg Bool.false_ne_true, bind_eq emptied, bind_eq filled]
          exact rest

/-- All that has a form is filled. -/
structure IsGrown (nodes : Array Node) (growth : Growth) : Prop where
  sound : growth.Sound nodes []
  none : growth.waiting = []

theorem sound_start (nodes : Array Node) :
    Growth.Sound nodes [] ⟨nodes, Array.replicate nodes.size none, []⟩ := by
  have empty (place : Nat) :
      Growth.formOf ⟨nodes, Array.replicate nodes.size none, []⟩ place = none := by
    rw [Growth.formOf, Array.getElem?_replicate]
    split <;> rfl
  have unknown {place : Nat} {form : Form}
      (known : Growth.formOf ⟨nodes, Array.replicate nodes.size none, []⟩ place = some form) :
        False :=
    Option.some_ne_none form (known.symm.trans (empty place))
  exact ⟨rfl, Array.size_replicate, fun _ _ known => (unknown known).elim,
    fun _ _ known => (unknown known).elim, fun _ known => (unknown known).elim,
    List.forall_mem_nil _⟩

/-- A node stands for its value, once everything that it needs is filled. -/
theorem exists_valueOf (row : IsRow nodes) {root : Nat} (inside : root < nodes.size) :
    ∃ growth, IsGrown nodes growth ∧ (growth.formOf root).isSome = true ∧
      valueOf nodes (some root) = .ok (valueWithin growth.forms (nodes.size + 1) [] root) := by
  obtain ⟨middle, made, keeps, grows, known⟩ := exists_make row (sound_start nodes) inside inside
  obtain ⟨growth, filled, sound, finished, kept⟩ :=
    exists_fillLevels row nodes.size keeps fun place waits =>
    (grows.waits place waits).resolve_left List.not_mem_nil
  refine ⟨growth, ⟨sound, finished⟩, kept root known, ?_⟩
  have grown : (make root >>= fun _ => fillLevels nodes.size)
      ⟨nodes, Array.replicate nodes.size none, []⟩ = .ok ((), growth) := (bind_eq made).trans filled
  unfold valueOf
  dsimp only [StateT.run]
  rw [grown]
  rfl

/-- A text is the same key as another where the values are. -/
theorem map_insert {part : Nat → Value} {key : Key}
    (text : isUndefined key.value = false) (value : Nat)
    (entries : List (Key × Nat)) :
    (insert entries key value).map (fun entry => (entry.1.value, part entry.2)) =
      Value.insert (entries.map fun entry => (entry.1.value, part entry.2)) key.value
        (part value) := by
  induction entries with
  | nil => rfl
  | cons entry entries induction =>
      have same : entry.1.same key = entry.1.value.sameKey key.value := by
        rw [Key.same, text, Bool.and_false, Bool.false_and, Bool.or_false]
      rw [Growing.insert, same, List.map_cons, Value.insert]
      split
      · rfl
      · rw [List.map_cons, induction]

/-- The entries of a mapping whose keys are texts are set as in the mapping of their values. -/
theorem map_keyed (part : Nat → Value) (entries : List (Nat × Nat)) :
    (keyed nodes entries).map (fun entry => (entry.1.value, part entry.2)) =
      Value.ofEntries (entries.map fun entry => ((keyAt nodes entry.1).value, part entry.2)) := by
  have text (place : Nat) : isUndefined (keyAt nodes place).value = false := by
    unfold keyAt
    split <;> rfl
  rw [keyed, Value.ofEntries, List.foldl_map]
  exact (List.foldl_hom (List.map fun entry : Key × Nat => (entry.1.value, part entry.2))
    fun made entry => (map_insert (text entry.1) entry.2 made).symm).symm

section Grown

variable {fuel : Nat} {above : List Nat} (grown : IsGrown nodes growth)
  (known : (growth.formOf place).isSome = true) (fresh : ∀ other ∈ above, place < other)

include grown known in
theorem IsGrown.exists_form :
    ∃ form, growth.formOf place = some form ∧ form.Fits nodes place ∧ form ≠ .unfilled ∧
      ∀ part ∈ partsAt nodes place, (growth.formOf part).isSome = true := by
  obtain ⟨form, found⟩ := Option.isSome_iff_exists.mp known
  have filled : form ≠ .unfilled := by
    rintro rfl
    have waits := grown.sound.pending place found
    rw [grown.none] at waits
    exact waits.elim List.not_mem_nil List.not_mem_nil
  exact ⟨form, found, grown.sound.fits place form found, filled,
    (grown.sound.parts place form found).resolve_left filled⟩

include fresh in
/-- A node is not cut below nodes that stand behind it. -/
theorem valueWithin_eq {form : Form} (found : growth.formOf place = some form) :
    valueWithin growth.forms (fuel + 1) above place =
      form.valueBy (valueWithin growth.forms fuel (place :: above)) := by
  have uncut : place ∉ above := fun member => Nat.lt_irrefl place (fresh place member)
  rw [Growth.formOf] at found
  rw [valueWithin, if_neg uncut, found]
  rfl

include grown known fresh in
theorem valueWithin_scalar {tag : Tag} {text : String} {value : Value}
    (own : nodes[place]? = some (.scalar tag text)) (reads : Scalar.value tag text = .ok value) :
    valueWithin growth.forms (fuel + 1) above place = value := by
  obtain ⟨form, found, fits, -, -⟩ := grown.exists_form known
  obtain ⟨same, rfl, readsSame⟩ := fits.of_scalar own
  rw [valueWithin_eq fresh found]
  exact Except.ok.inj (readsSame.symm.trans reads)

include grown known fresh in
theorem valueWithin_sequence {items : List Nat}
    (own : nodes[place]? = some (.sequence .seq items)) :
    valueWithin growth.forms (fuel + 1) above place =
        .list (items.map (valueWithin growth.forms fuel (place :: above))) ∧
      ∀ item ∈ items, (growth.formOf item).isSome = true := by
  obtain ⟨form, found, fits, filled, parts⟩ := grown.exists_form known
  refine ⟨?_, partsAt_sequence own ▸ parts⟩
  cases fits with
  | list same =>
      rw [own] at same
      obtain ⟨-, rfl⟩ := Node.sequence.inj (Option.some.inj same)
      rw [valueWithin_eq fresh found, Form.valueBy]
  | unfilled => exact absurd rfl filled
  | value same => simp [own] at same
  | map same => simp [own] at same

include grown known fresh in
theorem valueWithin_mapping {entries : List (Nat × Nat)}
    (own : nodes[place]? = some (.mapping .map entries)) :
    valueWithin growth.forms (fuel + 1) above place =
        .map (Value.ofEntries (entries.map fun entry =>
          ((keyAt nodes entry.1).value, valueWithin growth.forms fuel (place :: above) entry.2))) ∧
      ∀ entry ∈ entries, (growth.formOf entry.2).isSome = true := by
  obtain ⟨form, found, fits, filled, parts⟩ := grown.exists_form known
  refine ⟨?_, List.forall_mem_map.mp (partsAt_mapping own ▸ parts)⟩
  cases fits with
  | map same =>
      rw [own] at same
      obtain ⟨-, rfl⟩ := Node.mapping.inj (Option.some.inj same)
      rw [valueWithin_eq fresh found, Form.valueBy, ← map_keyed]
  | unfilled => exact absurd rfl filled
  | value same => simp [own] at same
  | list same => simp [own] at same

end Grown

end ApiCompiler.Yaml
