import ApiCompiler.Description.Extraction
import ApiCompiler.Proofs.Outcome
import ApiCompiler.Proofs.Value.Entries
import Mathlib.Algebra.Group.Nat.Defs

/-!
# Types that are read of schemas

Whether the types of a schema are read, and what stands in the way.
-/

namespace ApiCompiler.Description

open Outcome

/-- A value that can be gone through item by item. -/
def IsIterable : Value → Prop
  | .list _ => True
  | .tuple _ => True
  | .str _ => True
  | .bytes _ => True
  | .set _ => True
  | .map _ => True
  | _ => False

/-- The members of a union, if it is one. -/
inductive IsMember (member : Value) : Value → Prop where
  | list {members : List Value} (held : member ∈ members) : IsMember member (.list members)
  | tuple {members : List Value} (held : member ∈ members) : IsMember member (.tuple members)

/-- A schema whose types are not read: in it, or in a member of its unions, stands a type that
cannot be shown or a union that has no items. -/
inductive Untypable : Value → Prop where
  | type {entries : Fields} (long : (get entries "type").isShowable = false) :
    Untypable (.map entries)
  | union {entries : Fields} {name : String} {union : Value}
    (named : name = "oneOf" ∨ name = "anyOf")
      (held : Value.field? entries name = some union) (filled : union.isVacant = false)
      (scalar : ¬IsIterable union) : Untypable (.map entries)
  | member {entries : Fields} {name : String} {union member : Value}
      (named : name = "oneOf" ∨ name = "anyOf") (held : Value.field? entries name = some union)
      (listed : IsMember member union) (untypable : Untypable member) : Untypable (.map entries)

theorem areShowable_iff {items : List Value} :
    Value.areShowable items = true ↔ ∀ item ∈ items, item.isShowable = true := by
  induction items with
  | nil => simp [Value.areShowable]
  | cons item items induction => simp [Value.areShowable, induction]

theorem addType_eq (met : List String) (type : Value) :
    addType met type =
      if type.isShowable = true then .ok (addName met type.displayed) else .error .badContent := by
  rw [addType, Value.shown_eq]
  split <;> rfl

/-- Types that can all be shown are added by their names; any other stops the adding. -/
theorem foldlM_addType (met : List String) (types : List Value) :
    types.foldlM addType met =
      if ∀ type ∈ types, type.isShowable = true then
        .ok ((types.map Value.displayed).foldl addName met)
      else .error .badContent := by
  induction types generalizing met with
  | nil => simp [pure, Except.pure]
  | cons type types induction =>
      rw [List.foldlM_cons, addType_eq]
      by_cases short : type.isShowable = true
      · rw [if_pos short]
        change List.foldlM addType (addName met type.displayed) types = _
        simp [induction, short]
      · rw [if_neg short, if_neg (fun each => short (each type List.mem_cons_self))]
        rfl

theorem exists_foldlM_addType_iff {met : List String} {types : List Value} :
    (∃ names, types.foldlM addType met = .ok names) ↔ ∀ type ∈ types, type.isShowable = true := by
  rw [foldlM_addType]
  split
  · next each => exact ⟨fun _ => each, fun _ => ⟨_, rfl⟩⟩
  · next long => exact ⟨nofun, fun each => absurd each long⟩

theorem showable_declaredTypes_iff {type : Value} :
    (∀ declared ∈ declaredTypes type, declared.isShowable = true) ↔ type.isShowable = true := by
  cases type with
  | null => simp [declaredTypes, Value.isShowable]
  | list types =>
      simp only [declaredTypes, Value.isShowable, areShowable_iff, List.mem_filter,
        Bool.not_eq_true']
      constructor
      · intro kept type member
        cases same : type.sameKey (.str "null") with
        | false => exact kept type ⟨member, same⟩
        | true =>
            rw [Value.sameKey_str_right] at same
            rw [same]
            rfl
      · exact fun all type ⟨member, _⟩ => all type member
  | _ => exact List.forall_mem_singleton

/-- A union whose types are read. -/
def UnionFits (union : Value) : Prop :=
  (union.isVacant = true ∨ IsIterable union) ∧ ∀ member, IsMember member union → ¬Untypable member

theorem not_untypable_map_iff {entries : Fields} :
    ¬Untypable (.map entries) ↔ (get entries "type").isShowable = true ∧
      (∀ union, Value.field? entries "oneOf" = some union → UnionFits union) ∧
        ∀ union, Value.field? entries "anyOf" = some union → UnionFits union := by
  constructor
  · intro typable
    have fits (name : String) (named : name = "oneOf" ∨ name = "anyOf") (union : Value)
        (held : Value.field? entries name = some union) : UnionFits union := by
      refine ⟨?_, fun member listed untypable => typable (.member named held listed untypable)⟩
      by_contra scalar
      obtain ⟨filled, scalar⟩ := not_or.mp scalar
      exact typable (.union named held (Bool.eq_false_iff.mpr filled) scalar)
    refine ⟨?_, fits "oneOf" (.inl rfl), fits "anyOf" (.inr rfl)⟩
    by_contra long
    exact typable (.type (Bool.eq_false_iff.mpr long))
  · rintro ⟨short, oneOf, anyOf⟩ untypable
    have fits {name : String} {union : Value} (named : name = "oneOf" ∨ name = "anyOf")
        (held : Value.field? entries name = some union) : UnionFits union := by
      obtain rfl | rfl := named
      · exact oneOf union held
      · exact anyOf union held
    cases untypable with
    | type long => exact absurd short (by simp [long])
    | union named held filled scalar =>
        exact (fits named held).1.elim (by simp [filled]) scalar
    | member named held listed untypable => exact (fits named held).2 _ listed untypable

theorem isMember_list_iff {member : Value} {members : List Value} :
    IsMember member (.list members) ↔ member ∈ members :=
  ⟨fun (.list held) => held, .list⟩

theorem isMember_tuple_iff {member : Value} {members : List Value} :
    IsMember member (.tuple members) ↔ member ∈ members :=
  ⟨fun (.tuple held) => held, .tuple⟩

theorem exists_collectScalar_iff {met : List String} {union : Value} (scalar : ¬IsIterable union) :
    (∃ types, collectMembers met union = .ok types) ↔ UnionFits union := by
  have memberless (member : Value) : ¬IsMember member union := by
    rintro (_ | _) <;> exact scalar trivial
  have fits : UnionFits union ↔ union.isVacant = true := by
    simp [UnionFits, memberless, scalar]
  have read : collectMembers met union = if union.isVacant then .ok met else .error .wrongKind := by
    cases union <;> first | rfl | exact absurd trivial scalar
  rw [fits, read]
  split <;> simp [*]

mutual

theorem exists_collectTypes_iff : ∀ (met : List String) (schema : Value),
    (∃ types, collectTypes met schema = .ok types) ↔ ¬Untypable schema
  | met, .map entries => by
    rw [not_untypable_map_iff, collectTypes]
    simp only [exists_bind_iff, exists_foldlM_addType_iff,
      showable_declaredTypes_iff, exists_and_right, exists_collectUnder_iff _ _ entries, get]
    exact and_assoc.symm.trans and_comm
  | met, .null => ⟨fun _ => nofun, fun _ => ⟨met, rfl⟩⟩
  | met, .bool _ => ⟨fun _ => nofun, fun _ => ⟨met, rfl⟩⟩
  | met, .int _ => ⟨fun _ => nofun, fun _ => ⟨met, rfl⟩⟩
  | met, .float _ => ⟨fun _ => nofun, fun _ => ⟨met, rfl⟩⟩
  | met, .str _ => ⟨fun _ => nofun, fun _ => ⟨met, rfl⟩⟩
  | met, .bytes _ => ⟨fun _ => nofun, fun _ => ⟨met, rfl⟩⟩
  | met, .date _ => ⟨fun _ => nofun, fun _ => ⟨met, rfl⟩⟩
  | met, .datetime _ => ⟨fun _ => nofun, fun _ => ⟨met, rfl⟩⟩
  | met, .list _ => ⟨fun _ => nofun, fun _ => ⟨met, rfl⟩⟩
  | met, .tuple _ => ⟨fun _ => nofun, fun _ => ⟨met, rfl⟩⟩
  | met, .set _ => ⟨fun _ => nofun, fun _ => ⟨met, rfl⟩⟩

theorem exists_collectUnder_iff : ∀ (met : List String) (name : String) (entries : Fields),
    (∃ types, collectUnder met name entries = .ok types) ↔
      ∀ union, Value.field? entries name = some union → UnionFits union
  | met, name, [] => by simp [collectUnder]
  | met, name, (key, union) :: rest => by
    rw [collectUnder]
    split
    · rename_i same
      rw [Value.sameKey_str_right.mp same, exists_collectMembers_iff met union]
      simp
    · rename_i differs
      rw [exists_collectUnder_iff met name rest,
        Value.field?_cons_of_ne fun named => differs (Value.sameKey_str_right.mpr named)]

theorem exists_collectMembers_iff : ∀ (met : List String) (union : Value),
    (∃ types, collectMembers met union = .ok types) ↔ UnionFits union
  | met, .list members => by
    rw [collectMembers, exists_collectAll_iff met members]
    simp [UnionFits, IsIterable, isMember_list_iff]
  | met, .tuple members => by
    rw [collectMembers, exists_collectAll_iff met members]
    simp [UnionFits, IsIterable, isMember_tuple_iff]
  | met, .str _ => ⟨fun _ => ⟨.inr trivial, nofun⟩, fun _ => ⟨met, rfl⟩⟩
  | met, .bytes _ => ⟨fun _ => ⟨.inr trivial, nofun⟩, fun _ => ⟨met, rfl⟩⟩
  | met, .set _ => ⟨fun _ => ⟨.inr trivial, nofun⟩, fun _ => ⟨met, rfl⟩⟩
  | met, .map _ => ⟨fun _ => ⟨.inr trivial, nofun⟩, fun _ => ⟨met, rfl⟩⟩
  | met, .null => ⟨fun _ => ⟨.inl rfl, nofun⟩, fun _ => ⟨met, rfl⟩⟩
  | _, .bool _ => exists_collectScalar_iff id
  | _, .int _ => exists_collectScalar_iff id
  | _, .float _ => exists_collectScalar_iff id
  | _, .date _ => exists_collectScalar_iff id
  | _, .datetime _ => exists_collectScalar_iff id

theorem exists_collectAll_iff : ∀ (met : List String) (members : List Value),
    (∃ types, collectAll met members = .ok types) ↔ ∀ member ∈ members, ¬Untypable member
  | met, [] => by simp [collectAll]
  | met, member :: members => by
    rw [collectAll, List.forall_mem_cons]
    simp only [exists_bind_iff, exists_collectAll_iff _ members, exists_and_right,
      exists_collectTypes_iff met member]

end

/-- What is left of a row of names without repetition, in the order in which they first stand in the
row. -/
structure IsFirstMet (row kept : List String) : Prop where
  distinct : kept.Nodup
  same : ∀ name, name ∈ kept ↔ name ∈ row
  ordered : kept.Pairwise fun one other => row.idxOf one < row.idxOf other

theorem isFirstMet_nil : IsFirstMet [] [] :=
  ⟨.nil, fun _ => Iff.rfl, .nil⟩

/-- One more name at the end of the row is added unless it was met. -/
theorem IsFirstMet.addName {row kept : List String} (first : IsFirstMet row kept) (name : String) :
    IsFirstMet (row ++ [name]) (addName kept name) := by
  have place {other : String} (held : other ∈ kept) :
      (row ++ [name]).idxOf other = row.idxOf other :=
    List.idxOf_append_of_mem ((first.same other).mp held)
  have ordered : kept.Pairwise fun one other =>
    (row ++ [name]).idxOf one < (row ++ [name]).idxOf other := by
    refine first.ordered.imp_of_mem fun held also before => ?_
    rwa [place held, place also]
  unfold Description.addName
  split
  · next met =>
    refine ⟨first.distinct, fun other => ?_, ordered⟩
    rw [first.same, List.mem_append, List.mem_singleton, or_iff_left_of_imp]
    rintro rfl
    exact (first.same other).mp met
  · next unmet =>
    have absent : name ∉ row := fun member => unmet ((first.same name).mpr member)
    refine ⟨?_, fun other => ?_, ?_⟩
    · rw [List.nodup_append]
      refine ⟨first.distinct, List.pairwise_singleton _ name, fun other held last among => ?_⟩
      rintro rfl
      exact unmet (List.mem_singleton.mp among ▸ held)
    · rw [List.mem_append, List.mem_append, first.same]
    · rw [List.pairwise_append]
      refine ⟨ordered, List.pairwise_singleton _ name, fun other held last among => ?_⟩
      rw [List.mem_singleton.mp among, place held, List.idxOf_append_of_notMem absent]
      have early := List.idxOf_lt_length_of_mem ((first.same other).mp held)
      omega

/-- Adding the names of a row one after another keeps the first of each. -/
theorem IsFirstMet.foldl_addName {row kept : List String} (first : IsFirstMet row kept)
    (names : List String) : IsFirstMet (row ++ names) (names.foldl Description.addName kept) := by
  induction names generalizing row kept with
  | nil => rwa [List.append_nil]
  | cons name names induction =>
      rw [List.foldl_cons, List.append_cons]
      exact induction (first.addName name)

theorem isFirstMet_foldl_addName (names : List String) :
    IsFirstMet names (names.foldl addName []) :=
  isFirstMet_nil.foldl_addName names

theorem IsFirstMet.eq_nil_iff {row kept : List String} (first : IsFirstMet row kept) :
    kept = [] ↔ row = [] := by
  simp only [List.eq_nil_iff_forall_not_mem, first.same]

/-- A mark for nothing among the types of a schema. -/
def isNothing : Value → Bool
  | .str "null" => true
  | _ => false

/-- The types that stand under the key for them: those of a list without the marks for nothing, any
other one for itself. -/
def ownTypes : Value → List Value
  | .null => []
  | .list types => types.filter fun type => !isNothing type
  | type => [type]

mutual

/-- The types of a schema: those of the members of its two unions, one after another, and then its
own. -/
def listedTypes : Value → List Value
  | .map entries =>
    listedUnder "oneOf" entries ++ listedUnder "anyOf" entries ++ ownTypes (get entries "type")
  | _ => []

def listedUnder (name : String) : Fields → List Value
  | [] => []
  | (key, union) :: rest =>
    if key.sameKey (.str name) then listedByUnion union else listedUnder name rest

def listedByUnion : Value → List Value
  | .list members => listedByAll members
  | _ => []

def listedByAll : List Value → List Value
  | [] => []
  | member :: members => listedTypes member ++ listedByAll members

end

mutual

/-- A schema whose unions are lists, as are those of the schemas in them. -/
inductive HasListedUnions : Value → Prop where
  | fieldless {schema : Value} (fieldless : schema.entries? = none) : HasListedUnions schema
  | fields {entries : Fields}
      (oneOf : ∀ union, Value.field? entries "oneOf" = some union → IsListedUnion union)
      (anyOf : ∀ union, Value.field? entries "anyOf" = some union → IsListedUnion union) :
      HasListedUnions (.map entries)

/-- A union that is vacant, or a list of schemas. -/
inductive IsListedUnion : Value → Prop where
  | vacant {union : Value} (vacant : union.isVacant = true) : IsListedUnion union
  | list {members : List Value} (each : ∀ member ∈ members, HasListedUnions member) :
      IsListedUnion (.list members)

end

theorem ownTypes_eq (type : Value) : ownTypes type = declaredTypes type := by
  have nothing (type : Value) : isNothing type = type.sameKey (.str "null") := by
    rw [Bool.eq_iff_iff, Value.sameKey_str_right]
    constructor
    · intro none
      unfold isNothing at none
      split at none
      · rfl
      · contradiction
    · rintro rfl
      rfl
  cases type with
  | list types => simp only [ownTypes, declaredTypes, nothing]
  | _ => rfl

/-- A vacant union has no members, whatever its kind. -/
theorem collectMembers_vacant {union : Value} (vacant : union.isVacant = true) (met : List String) :
    collectMembers met union = (listedByUnion union).foldlM addType met := by
  cases union with
  | list members =>
      rw [List.isEmpty_iff.mp vacant]
      rfl
  | tuple members =>
      rw [List.isEmpty_iff.mp vacant]
      rfl
  | null => rfl
  | str _ => rfl
  | bytes _ => rfl
  | set _ => rfl
  | map _ => rfl
  | _ => exact if_pos vacant

mutual

/-- What a schema adds to the names that were met is what the types that it lists add, one after
another. -/
theorem collectTypes_eq : ∀ (met : List String) {schema : Value}, HasListedUnions schema →
    collectTypes met schema = (listedTypes schema).foldlM addType met
  | _, schema, .fieldless fieldless => by
    cases schema with
    | map entries => contradiction
    | _ => rfl
  | met, .map entries, .fields oneOf anyOf => by
    rw [collectTypes, listedTypes, List.foldlM_append, List.foldlM_append,
      collectUnder_eq met oneOf]
    simp only [collectUnder_eq _ anyOf, ownTypes_eq, bind_assoc]
    rfl

theorem collectUnder_eq : ∀ (met : List String) {name : String} {entries : Fields},
    (∀ union, Value.field? entries name = some union → IsListedUnion union) →
      collectUnder met name entries = (listedUnder name entries).foldlM addType met
  | met, name, [], _ => rfl
  | met, name, (key, union) :: rest, listed => by
    rw [collectUnder, listedUnder]
    split
    · next same =>
      rw [Value.sameKey_str_right.mp same] at listed
      exact collectMembers_eq met (listed union (Value.field?_cons_self ..))
    · next differs =>
      rw [Value.field?_cons_of_ne fun named => differs (Value.sameKey_str_right.mpr named)]
        at listed
      exact collectUnder_eq met listed

theorem collectMembers_eq : ∀ (met : List String) {union : Value}, IsListedUnion union →
    collectMembers met union = (listedByUnion union).foldlM addType met
  | met, _, .vacant vacant => collectMembers_vacant vacant met
  | met, .list _, .list each => collectAll_eq met each

theorem collectAll_eq : ∀ (met : List String) {members : List Value},
    (∀ member ∈ members, HasListedUnions member) →
      collectAll met members = (listedByAll members).foldlM addType met
  | met, [], _ => rfl
  | met, member :: members, each => by
    obtain ⟨first, others⟩ := List.forall_mem_cons.mp each
    rw [collectAll, listedByAll, List.foldlM_append, collectTypes_eq met first]
    simp only [collectAll_eq _ others]

end

/-- The types of a schema are read as a row, and what is left of the row without repetition is
kept. -/
theorem schemaTypes_eq {schema : Value} (listed : HasListedUnions schema) :
    schemaTypes schema =
      if ∀ type ∈ listedTypes schema, type.isShowable = true then
        .ok (if listedTypes schema = [] then ["string"]
          else ((listedTypes schema).map Value.displayed).foldl addName [])
      else .error .badContent := by
  have first := isFirstMet_foldl_addName ((listedTypes schema).map Value.displayed)
  have vacant : (((listedTypes schema).map Value.displayed).foldl addName []).isEmpty = true ↔
      listedTypes schema = [] := by
    rw [List.isEmpty_iff, first.eq_nil_iff, List.map_eq_nil_iff]
  rw [schemaTypes, collectTypes_eq [] listed, foldlM_addType]
  split
  · change Except.ok (if _ then _ else _) = _
    simp only [vacant]
  · rfl

/-- The types of a schema whose unions are lists are read exactly where all types that it lists can
be shown. They are then the listed ones by their names, each once and in the order in which they
first stand there; only where a schema lists none it accepts texts. -/
theorem schemaTypes_of_hasListedUnions {schema : Value} (listed : HasListedUnions schema) :
    ((∃ types, schemaTypes schema = .ok types) ↔
      ∀ type ∈ listedTypes schema, type.isShowable = true) ∧
      ∀ types, schemaTypes schema = .ok types →
        (listedTypes schema = [] → types = ["string"]) ∧
          (listedTypes schema ≠ [] →
            IsFirstMet ((listedTypes schema).map Value.displayed) types) := by
  rw [schemaTypes_eq listed]
  split
  · next each =>
    refine ⟨⟨fun _ => each, fun _ => ⟨_, rfl⟩⟩, ?_⟩
    rintro _ ⟨⟩
    constructor
    · exact fun none => if_pos none
    · intro some
      rw [if_neg some]
      exact isFirstMet_foldl_addName _
  · next long => exact ⟨⟨nofun, fun each => absurd each long⟩, nofun⟩

/-- A schema without unions. -/
theorem hasListedUnions_of_type (type : Value) : HasListedUnions (.map [(.str "type", type)]) :=
  .fields (fun _ held => nomatch (held : none = some _))
    (fun _ held => nomatch (held : none = some _))

/-- A union with a union, something that is no schema, and types in a list with a mark for nothing;
beside it a vacant union and a type that stands in the union as well. -/
def nestedSchema : Value := .map [
  (.str "type", .str "string"),
  (.str "oneOf", .list [
    .map [(.str "anyOf", .list [.map [(.str "type", .str "number")], .str "boolean"])],
    .map [(.str "type", .list [.str "string", .str "null", .int 5, .str "number"])]]),
  (.str "anyOf", .bool false)]

theorem schemaTypes_nestedSchema :
    HasListedUnions nestedSchema ∧ schemaTypes nestedSchema = .ok ["number", "string", "5"] ∧
      IsFirstMet ["number", "string", "5", "number", "string"] ["number", "string", "5"] := by
  have inner : IsListedUnion (.list [.map [(.str "type", .str "number")], .str "boolean"]) :=
    .list (List.forall_mem_cons.mpr
      ⟨hasListedUnions_of_type _, List.forall_mem_singleton.mpr (.fieldless rfl)⟩)
  have first :
      HasListedUnions
        (.map [(.str "anyOf", .list [.map [(.str "type", .str "number")], .str "boolean"])]) :=
    .fields (fun _ held => nomatch (held : none = some _))
      (fun _ held => Option.some.inj held ▸ inner)
  have listed : HasListedUnions nestedSchema :=
    .fields (fun _ held => Option.some.inj held ▸ .list (List.forall_mem_cons.mpr
        ⟨first, List.forall_mem_singleton.mpr (hasListedUnions_of_type _)⟩))
      (fun _ held => Option.some.inj held ▸ .vacant rfl)
  have read : schemaTypes nestedSchema = .ok ["number", "string", "5"] :=
    toOption_eq_some.mp (by decide +kernel)
  have row : (listedTypes nestedSchema).map Value.displayed =
      ["number", "string", "5", "number", "string"] := by
    decide +kernel
  have some : listedTypes nestedSchema ≠ [] := by
    intro none
    rw [none, List.map_nil] at row
    exact List.cons_ne_nil _ _ row.symm
  have kept := ((schemaTypes_of_hasListedUnions listed).2 _ read).2 some
  rw [row] at kept
  exact ⟨listed, read, kept⟩

/-- A number with too many digits, as documents can write it in base sixteen. -/
def longNumber : Value := .int (Int.ofNat (16 ^ 3572))

/-- The only type of a schema is not read if it is a number with too many digits. -/
theorem long_type_is_not_read :
    HasListedUnions (.map [(.str "type", longNumber)]) ∧
      listedTypes (.map [(.str "type", longNumber)]) = [longNumber] ∧
        schemaTypes (.map [(.str "type", longNumber)]) = .error .badContent := by
  have listed := hasListedUnions_of_type longNumber
  have alone : listedTypes (.map [(.str "type", longNumber)]) = [longNumber] := rfl
  have long : longNumber.isShowable = false := by decide +kernel
  refine ⟨listed, alone, ?_⟩
  rw [schemaTypes_eq listed, alone, if_neg]
  simp [long]

end ApiCompiler.Description
