import ApiCompiler.Call.Request
import ApiCompiler.Proofs.Description.Operations
import ApiCompiler.Proofs.Plan.All
import ApiCompiler.Proofs.Plan.Operation

/-!
# Functions of a module by their identifiers

A module has one function for each site of an operation, in the order of the document, and offers
each function under the identifier of its own operation. A description with two operations that
would share an identifier or a function name has no module.
-/

namespace ApiCompiler.Plan

open Description Outcome

/-- The function that a name stands for when a module is loaded: of several, the last one. -/
def definedAs? (plans : List Plan) (name : String) : Option Plan :=
  plans.reverse.find? (·.functionName == name)

/-- The function that a module offers under an identifier: what the name in its index stands for,
and of several entries under one identifier the last one counts. -/
def exportedAs? (plans : List Plan) (operationId : String) : Option Plan :=
  (plans.reverse.find? (·.operationId == operationId)).bind fun entry =>
    definedAs? plans entry.functionName

/-- A search by a key that no two plans share finds every plan. -/
theorem find?_eq_some_of_nodup {key : Plan → String} {plans : List Plan}
    (distinct : (plans.map key).Nodup) {plan : Plan} (member : plan ∈ plans) :
    plans.find? (key · == key plan) = some plan := by
  have found : (plans.find? (key · == key plan)).isSome :=
    List.find?_isSome.mpr ⟨plan, member, beq_self_eq_true _⟩
  obtain ⟨other, searched⟩ := Option.isSome_iff_exists.mp found
  have same : key other = key plan := by simpa using List.find?_some searched
  rw [searched, List.inj_on_of_nodup_map distinct (List.mem_of_find?_eq_some searched) member same]

theorem find?_reverse_eq_some_of_nodup {key : Plan → String} {plans : List Plan}
    (distinct : (plans.map key).Nodup) {plan : Plan} (member : plan ∈ plans) :
    plans.reverse.find? (key · == key plan) = some plan := by
  refine find?_eq_some_of_nodup ?_ (List.mem_reverse.mpr member)
  rw [List.map_reverse]
  exact List.nodup_reverse.mpr distinct

section Distinct

variable {plans : List Plan}

theorem nodup_map_of_pairwise {key : Plan → String} (apart : plans.Pairwise fun first second =>
    key first ≠ key second) : (plans.map key).Nodup :=
  List.pairwise_map.mpr apart

/-- Where plans are distinct, an identifier leads to the function of its own operation and nowhere
else. -/
theorem exportedAs?_eq_some_iff (operationIds : (plans.map (·.operationId)).Nodup)
    (functionNames : (plans.map (·.functionName)).Nodup) {operationId : String} {plan : Plan} :
    exportedAs? plans operationId = some plan ↔ plan ∈ plans ∧ plan.operationId = operationId := by
  constructor
  · intro exported
    obtain ⟨entry, searched, defined⟩ := Option.bind_eq_some_iff.mp exported
    have listed : entry ∈ plans := List.mem_reverse.mp (List.mem_of_find?_eq_some searched)
    obtain rfl : entry = plan := by
      rw [definedAs?, find?_reverse_eq_some_of_nodup functionNames listed] at defined
      exact Option.some.inj defined
    exact ⟨listed, by simpa using List.find?_some searched⟩
  · rintro ⟨member, rfl⟩
    rw [exportedAs?, find?_reverse_eq_some_of_nodup operationIds member,
      Option.bind_some, definedAs?, find?_reverse_eq_some_of_nodup functionNames member]

end Distinct

/-- The functions of the operations that a document has below some paths. -/
structure Exports (paths : Fields) (description : Description) (versions : Versions)
    (plans : List Plan) : Prop where
  /-- One operation is read at each site, in the order of the document. -/
  operations : List.Forall₂ ReadAt (sitesOf paths) description.operations
  /-- Each function is the one that its operation has alone. -/
  functions : List.Forall₂ (fun operation plan =>
    operation.operationId = some plan.operationId ∧
      ofOperation operation description.info description.servers versions = .ok plan)
    description.operations plans
  identified : ∀ plan ∈ plans, plan.operationId ≠ ""
  operationIds : (plans.map (·.operationId)).Nodup
  functionNames : (plans.map (·.functionName)).Nodup
  /-- Each identifier leads to the function of its own operation. -/
  index : ∀ operationId plan,
    exportedAs? plans operationId = some plan ↔ plan ∈ plans ∧ plan.operationId = operationId
  /-- A call by an identifier makes the request of its own operation. -/
  calls : ∀ plan ∈ plans, ∀ parameters options,
    Call.call plans plan.operationId [parameters, options] =
      Call.evaluate (plans.map (·.functionName)) plan parameters options

/-- Plans of an extracted description are exported. -/
theorem exports_of_ofDescription {document : Value} {formatVersion : String}
    {description : Description} {versions : Versions} {plans : List Plan}
    (extracted : (Description.extract document formatVersion).result = .ok description)
    (planned : (ofDescription description versions).result = .ok plans) :
    ∃ flat paths, Document.inline document = .ok (.map flat) ∧
      Value.field? flat "paths" = some (.map paths) ∧ Exports paths description versions plans := by
  obtain ⟨flat, paths, inlined, found, operations⟩ := forall₂_readAt_of_extract extracted
  obtain ⟨each, distinct⟩ := ofDescription_eq_ok_iff.mp planned
  have operationIds : (plans.map (·.operationId)).Nodup :=
    nodup_map_of_pairwise (distinct.imp And.left)
  have functionNames : (plans.map (·.functionName)).Nodup :=
    nodup_map_of_pairwise (distinct.imp And.right)
  refine ⟨flat, paths, inlined, found, operations, ?_, ?_, operationIds, functionNames, ?_, ?_⟩
  · exact each.imp fun _ _ made => ⟨(names_of_ofOperation made).1, made⟩
  · intro plan member
    obtain ⟨operation, made⟩ := exists_operation_of_mem planned plan member
    exact (names_of_ofOperation made).2.1
  · exact fun operationId plan => exportedAs?_eq_some_iff operationIds functionNames
  · intro plan member parameters options
    unfold Call.call
    rw [find?_eq_some_of_nodup operationIds member]

/-- The operation at a place of a description has a plan of its own. -/
def PlannedAt (description : Description) (versions : Versions) (index : Nat)
    (plan : Plan) : Prop :=
  ∃ operation, description.operations[index]? = some operation ∧
    ofOperation operation description.info description.servers versions = .ok plan

section Clash

variable {description : Description} {versions : Versions} {plans : List Plan} {index place : Nat}
  {plan other : Plan}

theorem getElem?_eq_some_of_plannedAt (made :
    (ofDescription description versions).result = .ok plans)
    (planned : PlannedAt description versions index plan) : plans[index]? = some plan := by
  obtain ⟨operation, held, alone⟩ := planned
  obtain ⟨inside, rfl⟩ := List.getElem?_eq_some_iff.mp held
  have each := forall₂_of_ofDescription made
  have within : index < plans.length := each.length_eq ▸ inside
  have same : Except.ok plan = .ok plans[index] := alone.symm.trans (each.get inside within)
  rw [List.getElem?_eq_getElem within, Except.ok.inj same]

/-- A key that no two plans share is not held at two places. -/
theorem index_eq_of_key_eq {key : Plan → String} (distinct : (plans.map key).Nodup)
    (held : plans[index]? = some plan) (kept : plans[place]? = some other)
    (same : key plan = key other) : index = place := by
  have inside : index < (plans.map key).length := by
    rw [List.length_map]
    exact (List.getElem?_eq_some_iff.mp held).1
  refine (List.getElem?_inj inside distinct).mp ?_
  rw [List.getElem?_map, List.getElem?_map, held, kept, Option.map_some, Option.map_some, same]

/-- Two operations that would share an identifier or a function name leave a description without
plans. -/
theorem ofDescription_eq_error_of_shared (planned : PlannedAt description versions index plan)
    (another : PlannedAt description versions place other) (apart : index ≠ place)
    (shared : plan.operationId = other.operationId ∨ plan.functionName = other.functionName) :
    ∃ failure, (ofDescription description versions).result = .error failure := by
  cases ended : (ofDescription description versions).result with
  | error failure => exact ⟨failure, rfl⟩
  | ok plans =>
      have distinct := (ofDescription_eq_ok_iff.mp ended).2
      have held := getElem?_eq_some_of_plannedAt ended planned
      have kept := getElem?_eq_some_of_plannedAt ended another
      obtain same | same := shared
      · exact absurd
          (index_eq_of_key_eq (nodup_map_of_pairwise (distinct.imp And.left)) held kept same)
          apart
      · exact absurd
          (index_eq_of_key_eq (nodup_map_of_pairwise (distinct.imp And.right)) held kept same)
          apart

end Clash

/-- Of a document that is extracted and planned, each operation has a function of its own, which is
offered under the identifier of that operation. Operations that would share an identifier or a
function name are refused. -/
theorem exports_of_extract_and_error_of_shared :
    (∀ {document : Value} {formatVersion : String} {description : Description} {versions : Versions}
        {plans : List Plan}, (Description.extract document formatVersion).result = .ok description →
      (ofDescription description versions).result = .ok plans →
      ∃ flat paths, Document.inline document = .ok (.map flat) ∧
        Value.field? flat "paths" = some (.map paths) ∧ Exports paths description versions plans) ∧
    (∀ {description : Description} {versions : Versions} {index place : Nat} {plan other : Plan},
      PlannedAt description versions index plan → PlannedAt description versions place other →
      index ≠ place →
      plan.operationId = other.operationId ∨ plan.functionName = other.functionName →
      ∃ failure, (ofDescription description versions).result = .error failure) :=
  ⟨exports_of_ofDescription, ofDescription_eq_error_of_shared⟩

/-- An operation of a document that says only under which identifier it is known. -/
def identifiedFields (operationId : String) : Value :=
  .map [(.str "operationId", .str operationId)]

/-- Two operations of one path behind a reference, one of another path, and entries that are
none. -/
def shopDocument : Value :=
  .map [
    (.str "info", .map [(.str "title", .str "Shop"), (.str "version", .str "1")]),
    (.str "servers", .list [.map [(.str "url", .str "http://shop.test")]]),
    (.str "paths", .map [
      (.str "/orders", .map [(.str "$ref", .str "#/items/orders")]),
      (.str "/notes", .str "get"),
      (.str "/orders/{id}", .map [
        (.str "parameters", .list [.map [(.str "name", .str "id"), (.str "in", .str "path")]]),
        (.str "GET", identifiedFields "readOrder"), (.str "head", .str "none"),
        (.str "delete", identifiedFields "deleteOrder")])]),
    (.str "items", .map [(.str "orders", .map [
      (.str "post", identifiedFields "createOrder"),
        (.str "get", identifiedFields "listOrders")])])]

/-- Two operations whose identifiers give one function name. -/
def sharedDescription : Description where
  info := shopInfo
  servers := shopServers
  operations := ["listOrders", "list_orders"].map fun operationId =>
    ⟨"/orders", .get, some operationId, none, none, [], none⟩
  formatVersion := "3.0.3"

/-- The description of the document and its plans, and under which identifiers they are known. -/
theorem exists_plans_shopDocument :
    ∃ description plans, (Description.extract shopDocument "3.0.3").result = .ok description ∧
      (ofDescription description shopVersions).result = .ok plans ∧
      plans.map (·.operationId) = ["createOrder", "listOrders", "deleteOrder"] := by
  obtain ⟨description, extracted⟩ :
      ∃ description, (Description.extract shopDocument "3.0.3").result = .ok description :=
    exists_eq_ok_of_isSome (by decide +kernel)
  have seen : ((Description.extract shopDocument "3.0.3").result.toOption.bind fun description =>
      (ofDescription description shopVersions).result.toOption.map fun plans =>
        plans.map (·.operationId)) = some ["createOrder", "listOrders", "deleteOrder"] := by
    decide +kernel
  rw [extracted, Except.toOption, Option.bind_some] at seen
  obtain ⟨plans, planned, known⟩ := Option.map_eq_some_iff.mp seen
  refine ⟨description, plans, extracted, ?_, known⟩
  cases made : (ofDescription description shopVersions).result with
  | error failure =>
      rw [made] at planned
      contradiction
  | ok given =>
      rw [made] at planned
      rw [Option.some.inj planned]

/-- Both operations have plans, which give their functions one name. -/
theorem exists_plans_sharedDescription :
    ∃ plan other, PlannedAt sharedDescription shopVersions 0 plan ∧
      PlannedAt sharedDescription shopVersions 1 other ∧
        plan.functionName = other.functionName := by
  obtain ⟨plan, first⟩ : ∃ plan, ofOperation
      ⟨"/orders", .get, some "listOrders", none, none, [], none⟩ shopInfo shopServers shopVersions =
        .ok plan :=
    exists_eq_ok_of_isSome (by decide +kernel)
  obtain ⟨other, second⟩ : ∃ other, ofOperation
      ⟨"/orders", .get, some "list_orders", none, none, [],
        none⟩ shopInfo shopServers shopVersions =
        .ok other :=
    exists_eq_ok_of_isSome (by decide +kernel)
  refine ⟨plan, other, ⟨_, rfl, first⟩, ⟨_, rfl, second⟩, ?_⟩
  obtain ⟨known, -, named⟩ := names_of_ofOperation first
  obtain ⟨known', -, named'⟩ := names_of_ofOperation second
  rw [named, named', ← Option.some.inj known, ← Option.some.inj known']
  decide +kernel

theorem exports_shopDocument_and_error_sharedDescription :
    (∃ description plans flat paths,
      (Description.extract shopDocument "3.0.3").result = .ok description ∧
      (ofDescription description shopVersions).result = .ok plans ∧
      plans.map (·.operationId) = ["createOrder", "listOrders", "deleteOrder"] ∧
      Document.inline shopDocument = .ok (.map flat) ∧
        Value.field? flat "paths" = some (.map paths) ∧
      Exports paths description shopVersions plans) ∧
    ∃ failure, (ofDescription sharedDescription shopVersions).result = .error failure := by
  obtain ⟨description, plans, extracted, planned, known⟩ := exists_plans_shopDocument
  obtain ⟨flat, paths, inlined, found, exports⟩ :=
    exports_of_extract_and_error_of_shared.1 extracted planned
  obtain ⟨plan, other, first, second, same⟩ := exists_plans_sharedDescription
  exact ⟨⟨description, plans, flat, paths, extracted, planned, known, inlined, found, exports⟩,
    exports_of_extract_and_error_of_shared.2 first second Nat.zero_ne_one (.inr same)⟩

end ApiCompiler.Plan
