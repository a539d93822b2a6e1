import ApiCompiler.Proofs.Yaml.Content
import ApiCompiler.Yaml.Content

/-!
# JSON that is read as YAML

A portable text of an object is read as YAML to its value with one difference: to be a number, an
exponent needs a point in front of it and a sign, and the undefined number and the infinities are no
names. What YAML does not know as a number is a text.
-/

namespace ApiCompiler.Json

open Yaml

mutual

/-- The value that YAML reads. -/
def Syntax.yamlValue : Syntax → Value
  | .word name value _ => wordValue name value
  | .number numeral => if Standard numeral then numeral.value else .str (String.ofList numeral.text)
  | .string pieces => textValue pieces
  | .emptyArray _ => .list []
  | .array _ items => .list items.yamlValues
  | .emptyObject _ => .map []
  | .object _ entries => .map (Value.ofEntries entries.yamlEntries)

def Items.yamlValues : Items → List Value
  | .last item _ => [item.yamlValue]
  | .more item _ _ items => item.yamlValue :: items.yamlValues

def Entries.yamlEntries : Entries → List (Value × Value)
  | .last key _ _ value _ => [(textValue key, value.yamlValue)]
  | .more key _ _ value _ _ entries => (textValue key, value.yamlValue) :: entries.yamlEntries

end

mutual

/-- All numbers are numbers of YAML. -/
def Syntax.Standard : Syntax → Prop
  | .word _ value _ => ∀ number, value ≠ .float number
  | .number numeral => Yaml.Standard numeral
  | .array _ items => items.Standard
  | .object _ entries => entries.Standard
  | _ => True

def Items.Standard : Items → Prop
  | .last item _ => item.Standard
  | .more item _ _ items => item.Standard ∧ items.Standard

def Entries.Standard : Entries → Prop
  | .last _ _ _ value _ => value.Standard
  | .more _ _ _ value _ _ entries => value.Standard ∧ entries.Standard

end

theorem wordValue_eq {name : String} {value : Value} (standard : ∀ number, value ≠ .float number) :
    wordValue name value = value := by
  cases value with
  | float number => exact absurd rfl (standard number)
  | _ => rfl

mutual

/-- Where all numbers are numbers of YAML, it reads the same value. -/
theorem Syntax.yamlValue_eq : ∀ (written : Syntax), written.Standard →
    written.yamlValue = written.value
  | .word .., standard => wordValue_eq standard
  | .number _, standard => if_pos standard
  | .string _, _ => rfl
  | .emptyArray _, _ => rfl
  | .array _ items, standard => congrArg Value.list (items.yamlValues_eq standard)
  | .emptyObject _, _ => rfl
  | .object _ entries, standard =>
    congrArg (fun read => Value.map (Value.ofEntries read)) (entries.yamlEntries_eq standard)

theorem Items.yamlValues_eq : ∀ (written : Items), written.Standard →
    written.yamlValues = written.values
  | .last item _, standard => congrArg (· :: []) (item.yamlValue_eq standard)
  | .more item _ _ items, standard =>
    congrArg₂ List.cons (item.yamlValue_eq standard.1) (items.yamlValues_eq standard.2)

theorem Entries.yamlEntries_eq : ∀ (written : Entries), written.Standard →
    written.yamlEntries = written.entries
  | .last key _ _ value _, standard =>
    congrArg (fun read => [(textValue key, read)]) (value.yamlValue_eq standard)
  | .more key _ _ value _ _ entries, standard =>
    congrArg₂ (fun read others => (textValue key, read) :: others) (value.yamlValue_eq standard.1)
      (entries.yamlEntries_eq standard.2)

end

section Values

variable {nodes : Array Node} {growth : Growth}

theorem keyAt_textNode {pieces : List Piece} {place : Nat}
    (own : nodes[place]? = some (textNode pieces)) :
    (keyAt nodes place).value = textValue pieces := by
  rw [keyAt, own]
  rfl

theorem behind_of_sequence {place : Nat} {items : List Nat} (row : IsRow nodes)
    (own : nodes[place]? = some (.sequence .seq items)) : ∀ item ∈ items, item < place := by
  cases row place _ own with
  | sequence behind => exact behind

theorem behind_of_mapping {place : Nat} {entries : List (Nat × Nat)} (row : IsRow nodes)
    (own : nodes[place]? = some (.mapping .map entries)) : ∀ entry ∈ entries, entry.2 < place := by
  cases row place _ own with
  | mapping behind _ => exact fun entry member => (behind entry member).2

theorem forall_mem_cons_of_lt {part place : Nat} {above : List Nat} (behind : part < place)
    (fresh : ∀ other ∈ above, place < other) : ∀ other ∈ place :: above, part < other :=
  List.forall_mem_cons.mpr ⟨behind, fun other member => behind.trans (fresh other member)⟩

mutual

/-- What lies in a grown row stands for the value that YAML reads. Above a part are only nodes that
stand behind it. -/
theorem Syntax.valueWithin_eq (row : IsRow nodes) (grown : IsGrown nodes growth) :
    ∀ (written : Syntax) {fuel place : Nat} {above : List Nat}, written.Portable →
      written.LiesAt nodes place → (growth.formOf place).isSome = true → place < fuel →
        (∀ other ∈ above, place < other) →
          valueWithin growth.forms fuel above place = written.yamlValue
  | _, 0, place, _, _, _, _, below, _ => absurd below (Nat.not_lt_zero place)
  | .word _ _ named, _ + 1, _, _, _, lies, known, _, fresh =>
    valueWithin_scalar grown known fresh lies (value_word named)
  | .number _, _ + 1, _, _, portable, lies, known, _, fresh =>
    valueWithin_scalar grown known fresh lies (value_numeral portable)
  | .string _, _ + 1, _, _, _, lies, known, _, fresh =>
      valueWithin_scalar grown known fresh lies rfl
  | .emptyArray _, _ + 1, _, _, _, lies, known, _, fresh =>
    (valueWithin_sequence grown known fresh lies).1
  | .array _ items, fuel + 1, _, _, portable, ⟨places, own, lie⟩, known, below, fresh => by
    obtain ⟨whole, made⟩ := @valueWithin_sequence _ _ _ fuel _ grown known fresh places own
    have behind := behind_of_sequence row own
    rw [whole, Items.valuesWithin_eq row grown items portable.2 lie fun part member =>
      ⟨made part member, by have := behind part member; omega,
        forall_mem_cons_of_lt (behind part member) fresh⟩]
    rfl
  | .emptyObject _, _ + 1, _, _, _, lies, known, _, fresh =>
    (valueWithin_mapping grown known fresh lies).1
  | .object _ entries, fuel + 1, _, _, portable, ⟨places, own, lie⟩, known, below, fresh => by
    obtain ⟨whole, made⟩ := @valueWithin_mapping _ _ _ fuel _ grown known fresh places own
    have behind := behind_of_mapping row own
    rw [whole, Entries.entriesWithin_eq row grown entries portable.2 lie fun part member =>
      ⟨made part member, by have := behind part member; omega,
        forall_mem_cons_of_lt (behind part member) fresh⟩]
    rfl

theorem Items.valuesWithin_eq (row : IsRow nodes) (grown : IsGrown nodes growth) :
    ∀ (written : Items) {fuel : Nat} {places above : List Nat}, written.Portable →
      written.LieAt nodes places →
      (∀ place ∈ places, (growth.formOf place).isSome = true ∧ place < fuel ∧
        ∀ other ∈ above, place < other) →
        places.map (valueWithin growth.forms fuel above) = written.yamlValues
  | .last item _, _, _, _, portable, ⟨_, rfl, lies⟩, made => by
    obtain ⟨known, below, fresh⟩ := List.forall_mem_singleton.mp made
    exact congrArg (· :: [])
      (Syntax.valueWithin_eq row grown item portable.1 lies known below fresh)
  | .more item _ _ items, _, _, _, portable, ⟨_, _, rfl, lies, lie⟩, made => by
    obtain ⟨⟨known, below, fresh⟩, others⟩ := List.forall_mem_cons.mp made
    exact congrArg₂ List.cons
      (Syntax.valueWithin_eq row grown item portable.1 lies known below fresh)
      (Items.valuesWithin_eq row grown items portable.2.2.2 lie others)

theorem Entries.entriesWithin_eq (row : IsRow nodes) (grown : IsGrown nodes growth) :
    ∀ (written : Entries) {fuel : Nat} {places : List (Nat × Nat)} {above : List Nat},
      written.Portable → written.LieAt nodes places →
      (∀ entry ∈ places, (growth.formOf entry.2).isSome = true ∧ entry.2 < fuel ∧
        ∀ other ∈ above, entry.2 < other) →
        places.map (fun entry =>
            ((keyAt nodes entry.1).value, valueWithin growth.forms fuel above entry.2)) =
          written.yamlEntries
  | .last key _ _ value _, _, _, _, portable, ⟨_, _, rfl, named, lies⟩, made => by
    obtain ⟨known, below, fresh⟩ := List.forall_mem_singleton.mp made
    exact congrArg (· :: []) (Prod.ext (keyAt_textNode named)
      (Syntax.valueWithin_eq row grown value portable.2.2.1 lies known below fresh))
  | .more key _ _ value _ _ entries, _, _, _, portable, ⟨_, _, _, rfl, named, lies, lie⟩, made => by
    obtain ⟨⟨known, below, fresh⟩, others⟩ := List.forall_mem_cons.mp made
    exact congrArg₂ List.cons (Prod.ext (keyAt_textNode named)
        (Syntax.valueWithin_eq row grown value portable.2.2.1 lies known below fresh))
      (Entries.entriesWithin_eq row grown entries portable.2.2.2.2.2 lie others)

end

end Values

/-- A portable text of an object is read to the value that YAML reads. -/
theorem yaml_read_object {before after : Blank} {written : Syntax} {entries : List (Value × Value)}
    (object : written.value = .map entries) (spacedBefore : before.Portable)
    (spacedAfter : after.Portable)
    (portable : written.Portable) :
    Yaml.read (String.ofList (before.text ++ written.text ++ after.text)) =
      .ok written.yamlValue := by
  obtain ⟨nodes, place, composed, row, lies⟩ := exists_nodesOf portable
  obtain ⟨growth, grown, known, value⟩ := exists_valueOf row lies.lt_size
  rw [Yaml.read, String.toList_ofList,
    tokensOf_object object spacedBefore spacedAfter portable, composed]
  refine value.trans (congrArg Except.ok ?_)
  exact Syntax.valueWithin_eq row grown written portable lies known (Nat.lt_succ_of_lt lies.lt_size)
    (List.forall_mem_nil _)

end ApiCompiler.Json
