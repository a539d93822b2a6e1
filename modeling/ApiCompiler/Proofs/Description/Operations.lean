import ApiCompiler.Description.Extraction
import ApiCompiler.Proofs.Logged

/-!
# Operations of documents

The sites of a document that hold operations, and that a description has one operation for each of
them, in their order.
-/

namespace ApiCompiler.Description

open Outcome Checked Logged

/-- The names of methods in a document. -/
def methodNames : List String :=
  ["get", "post", "put", "patch", "delete", "head", "options", "trace"]

/-- An entry of the item of a path that holds an operation. -/
structure Site where
  path : Value
  item : Fields
  method : String
  fields : Fields

/-- The site of an entry, if the name of a method stands there for a mapping. -/
def siteOf? (path : Value) (item : Fields) : Value × Value → Option Site
  | (.str method, .map fields) =>
    if method ∈ methodNames then some ⟨path, item, method, fields⟩ else none
  | _ => none

/-- The sites of the item of a path, if it is a mapping. -/
def sitesOfPath : Value × Value → List Site
  | (path, .map item) => item.filterMap (siteOf? path item)
  | _ => []

/-- The sites of some paths, in the order of the document. -/
def sitesOf (paths : Fields) : List Site :=
  paths.flatMap sitesOfPath

theorem ofName?_name (method : Method) : Method.ofName? method.name = some method := by
  cases method <;> decide

theorem name_of_ofName? {name : String} {method : Method}
    (found : Method.ofName? name = some method) :
    method.name = name := by
  obtain ⟨entry, searched, rfl⟩ := Option.map_eq_some_iff.mp found
  have same : entry.1 = name := by simpa using List.find?_some searched
  have listed : ∀ entry ∈ Method.named, entry.2.name = entry.1 := by decide
  rw [listed entry (List.mem_of_find?_eq_some searched), same]

theorem mem_methodNames_iff {name : String} :
    name ∈ methodNames ↔ ∃ method : Method, method.name = name := by
  constructor
  · intro member
    have named : ∀ name ∈ methodNames, (Method.ofName? name).isSome := by decide
    obtain ⟨method, found⟩ := Option.isSome_iff_exists.mp (named name member)
    exact ⟨method, name_of_ofName? found⟩
  · rintro ⟨method, rfl⟩
    cases method <;> decide

/-- An entry is a site exactly where it is read as an operation. -/
theorem siteOf?_eq_map (path : Value) (item : Fields) (entry : Value × Value) :
    siteOf? path item entry =
      (operationAt? entry).map fun (method, fields) => ⟨path, item, method.name, fields⟩ := by
  obtain ⟨key, value⟩ := entry
  cases key with
  | str name =>
      cases value with
      | map fields =>
          cases found : Method.ofName? name with
          | none =>
              have unnamed : name ∉ methodNames := by
                rw [mem_methodNames_iff]
                rintro ⟨method, rfl⟩
                rw [ofName?_name] at found
                contradiction
              simp [siteOf?, operationAt?, Value.text?, found, unnamed]
          | some method =>
              obtain rfl := name_of_ofName? found
              have named : method.name ∈ methodNames := mem_methodNames_iff.mpr ⟨method, rfl⟩
              simp [siteOf?, operationAt?, Value.text?, Value.entries?, found, named]
      | _ => simp [siteOf?, operationAt?, Value.entries?]
  | _ => simp [siteOf?, operationAt?, Value.text?]

/-- An operation as it is read at a site: on its path, with its method, under the identifier that
stands there, and as extraction reads it from there alone. -/
structure ReadAt (site : Site) (operation : Operation) : Prop where
  path : Shape.text site.path = .fits operation.path
  method : operation.method.name = site.method
  operationId : Shape.optional Shape.text ((Value.field? site.fields "operationId").getD .null) =
    .fits operation.operationId
  read : ∃ shared,
    parameterList site.path ((Value.field? site.item "parameters").getD .null) = .ok shared ∧
      (extractOperation site.path shared operation.method site.fields).result = .ok operation

theorem fields_of_extractOperation {path : Value} {shared : List Fields} {method : Method}
    {fields : Fields} {operation : Operation}
    (extracted : (extractOperation path shared method fields).result = .ok operation) :
    Shape.text path = .fits operation.path ∧ operation.method = method ∧
      Shape.optional Shape.text ((Value.field? fields "operationId").getD .null) =
        .fits operation.operationId := by
  simp only [extractOperation, result_bind, bind_eq_ok] at extracted
  obtain ⟨_, -, _, -, _, -, _, -, _, -, built⟩ := extracted
  have fits := orFail_eq_ok.mp built
  simp only [seq_eq_fits, map_eq_fits, below_eq_fits] at fits
  -- The record is filled field after field; the last ones are peeled off first.
  obtain ⟨_, _, fits, -, rfl⟩ := fits
  obtain ⟨_, _, fits, -, rfl⟩ := fits
  obtain ⟨_, _, fits, -, rfl⟩ := fits
  obtain ⟨_, _, fits, -, rfl⟩ := fits
  obtain ⟨_, _, fits, identified, rfl⟩ := fits
  obtain ⟨_, _, fits, ⟨⟩, rfl⟩ := fits
  obtain ⟨_, written, rfl⟩ := fits
  exact ⟨written, rfl, identified⟩

/-- The operations of a path are those that are read at its sites. -/
theorem forall₂_readAt_of_extractPath {entry : Value × Value} {operations : List Operation}
    (extracted : (extractPath entry).result = .ok operations) :
    List.Forall₂ ReadAt (sitesOfPath entry) operations := by
  obtain ⟨path, item⟩ := entry
  cases item with
  | map fields =>
      simp only [extractPath, result_bind, bind_eq_ok, mapM_eq_ok_iff] at extracted
      obtain ⟨shared, listed, each⟩ := extracted
      have sites : sitesOfPath (path, .map fields) =
          (fields.filterMap operationAt?).map fun (method, operation) =>
            ⟨path, fields, method.name, operation⟩ := by
        rw [List.map_filterMap]
        exact congrArg (fields.filterMap ·) (funext (siteOf?_eq_map path fields))
      rw [sites, List.forall₂_map_left_iff]
      refine each.imp ?_
      rintro ⟨method, entries⟩ operation read
      obtain ⟨written, rfl, identified⟩ := fields_of_extractOperation read
      exact ⟨written, rfl, identified, shared, listed, read⟩
  | _ =>
      obtain rfl := Except.ok.inj extracted
      exact .nil

/-- The operations of some paths are those that are read at their sites. -/
theorem forall₂_readAt_of_extractOperations {paths : Value} {operations : List Operation}
    (extracted : (extractOperations paths).result = .ok operations) :
    ∃ entries, paths = .map entries ∧ List.Forall₂ ReadAt (sitesOf entries) operations := by
  cases paths with
  | map entries =>
      simp only [extractOperations, result_bind, bind_eq_ok, mapM_eq_ok_iff, result_pure,
        Except.ok.injEq] at extracted
      obtain ⟨ofPaths, each, rfl⟩ := extracted
      refine ⟨entries, rfl, ?_⟩
      rw [sitesOf, List.flatMap_def]
      refine List.rel_flatten (List.forall₂_map_left_iff.mpr (each.imp ?_))
      exact fun _ _ => forall₂_readAt_of_extractPath
  | _ => cases extracted

/-- A description has one operation for each site of the paths of its document without
references. -/
theorem forall₂_readAt_of_extract {document : Value} {formatVersion : String}
    {description : Description}
    (extracted : (extract document formatVersion).result = .ok description) :
    ∃ flat paths, Document.inline document = .ok (.map flat) ∧
      Value.field? flat "paths" = some (.map paths) ∧
      List.Forall₂ ReadAt (sitesOf paths) description.operations := by
  rw [extract, result_bind, bind_eq_ok] at extracted
  obtain ⟨inlined, inlining, extracted⟩ := extracted
  cases inlined with
  | map flat =>
      simp only [ofInlined, result_bind, bind_eq_ok, result_pure, Except.ok.injEq] at extracted
      obtain ⟨_, -, _, -, _, -, operations, extracted, rfl⟩ := extracted
      obtain ⟨paths, same, each⟩ := forall₂_readAt_of_extractOperations extracted
      refine ⟨flat, paths, inlining, ?_, each⟩
      change (Value.field? flat "paths").getD .null = .map paths at same
      cases found : Value.field? flat "paths" with
      | none =>
          rw [found] at same
          cases same
      | some value =>
          rw [found, Option.getD_some] at same
          rw [same]
  | _ => cases extracted

end ApiCompiler.Description
