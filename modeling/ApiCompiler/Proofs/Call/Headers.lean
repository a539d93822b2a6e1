import ApiCompiler.Proofs.Call.Dispatch
import ApiCompiler.Proofs.Call.Layers
import ApiCompiler.Proofs.Call.Required

/-!
# Headers of requests

Where the headers of a dispatched request come from. Each name has one value, that of the strongest
source that mentions it, and what is unset there is left out and not looked for elsewhere.
-/

namespace ApiCompiler.Call

open Outcome Plan

/-- A version that requests report, unless it is empty. -/
def versionSource (key : String) : Option String → Headers
  | none => []
  | some "" => []
  | some version => [(key, .str version)]

/-- The declared header parameters and the values they are given. -/
def declaredSource (operation : Operation) (given : Entries) : Headers :=
  (parametersAt .header operation).map fun parameter =>
    (parameter.name, entry given (argumentOf parameter))

/-- The declared media type, if it is sent. -/
def contentTypeSource (request : RequestPlan) : Headers :=
  if request.sendsContentType then [("Content-Type", .str (request.contentType.getD ""))] else []

/-- Everything that a call has to say about headers, strongest first. -/
def headerSources (operation : Operation) (info : Info) (versions : Versions)
    (request : RequestPlan)
    (given : Entries) (callers : Headers) : Headers :=
  (declaredSource operation given).reverse ++ versionSource appVersionHeader versions.app ++
    versionSource sdkVersionHeader versions.sdk ++ [(apiVersionHeader, .str info.version)] ++
    callers.reverse ++ contentTypeSource request

/-- The headers that a plan binds, weakest first. -/
def boundSource (operation : Operation) (info : Info) (versions : Versions) (given : Entries) :
    Headers :=
  (apiVersionHeader, .str info.version) :: versionSource sdkVersionHeader versions.sdk ++
    versionSource appVersionHeader versions.app ++ declaredSource operation given

theorem reverse_versionSource (key : String) (version : Option String) :
    (versionSource key version).reverse = versionSource key version := by
  unfold versionSource
  split <;> rfl

/-- Layer upon layer, the last word is that of the strongest source. -/
theorem headerSources_eq (operation : Operation) (info : Info) (versions : Versions)
    (request : RequestPlan) (given : Entries) (callers : Headers) :
    headerSources operation info versions request given callers =
      (contentTypeSource request ++ callers ++
        boundSource operation info versions given).reverse := by
  have single : (contentTypeSource request).reverse = contentTypeSource request := by
    unfold contentTypeSource
    split <;> rfl
  simp [headerSources, boundSource, reverse_versionSource, single]

/-- The headers that report versions. -/
def versionHeaders : List String :=
  [apiVersionHeader, sdkVersionHeader, appVersionHeader]

theorem isReserved_eq_true_iff {parameter : Parameter} :
    isReserved parameter = true ↔
      Text.lowercased parameter.name ∈ versionHeaders.map Text.lowercased := by
  have lower : versionHeaders.map Text.lowercased =
      ["x-api-version", "x-sdk-version", "x-app-version"] := by decide
  rw [lower, isReserved, List.contains_iff_mem]

theorem versionSource_cases (key : String) (version : Option String) :
    versionSource key version = [] ∨ ∃ text, versionSource key version = [(key, .str text)] := by
  unfold versionSource
  split
  · exact Or.inl rfl
  · exact Or.inl rfl
  · exact Or.inr ⟨_, rfl⟩

theorem map_fst_versionSource_sublist (key : String) (version : Option String) :
    ((versionSource key version).map (·.1)).Sublist [key] := by
  rcases versionSource_cases key version with none | ⟨text, one⟩
  · simp [none]
  · simp [one]

/-- No parameter that is an argument is called like a version. -/
theorem forall_mem_declaredSource {operation : Operation} {given : Entries} :
    ∀ header ∈ declaredSource operation given,
      Text.lowercased header.1 ∉ versionHeaders.map Text.lowercased := by
  intro header member named
  obtain ⟨parameter, declared, rfl⟩ := List.mem_map.mp member
  have explicit := (List.mem_filter.mp (mem_parametersAt.mp declared).1).2
  simp [isReserved_eq_true_iff.mpr named] at explicit

theorem nodup_boundSource {operation : Operation} {info : Info} {versions : Versions}
    {given : Entries} (distinct : (argumentNames operation).Nodup) :
    ((boundSource operation info versions given).map (·.1)).Nodup := by
  have reserved : ((apiVersionHeader, Value.str info.version) ::
      versionSource sdkVersionHeader versions.sdk ++
        versionSource appVersionHeader versions.app).map (·.1) |>.Sublist
      versionHeaders := by
    rw [List.cons_append, List.map_cons, List.map_append]
    exact ((map_fst_versionSource_sublist _ _).append
      (map_fst_versionSource_sublist _ _)).cons_cons _
  rw [boundSource, List.map_append, List.nodup_append]
  refine ⟨reserved.nodup (by decide), ?_, ?_⟩
  · -- Parameters with one name would be one argument.
    have apart : ((parametersAt .header operation).map argumentOf).Nodup :=
      List.Nodup.sublist (List.filter_sublist.map _) distinct
    have names : (declaredSource operation given).map (·.1) =
        (parametersAt .header operation).map (·.name) := by
      simp [declaredSource]
    rw [names]
    refine List.Nodup.of_map Naming.argumentName ?_
    rw [List.map_map]
    exact apart
  · rintro name version other declared rfl
    obtain ⟨header, member, rfl⟩ := List.mem_map.mp declared
    exact forall_mem_declaredSource header member (List.mem_map_of_mem (reserved.subset version))

theorem map_versionBinding (given : Entries) (key : String) (version : Option String) :
    (versionBinding key version).map (fun binding =>
        (binding.key, sourceValue given binding.source)) = versionSource key version := by
  cases version with
  | none => rfl
  | some version =>
      by_cases empty : version = ""
      · subst empty
        rfl
      · simp [versionBinding, versionSource, sourceValue]

/-- The headers that a plan binds hold what its operation says about headers, each name once. -/
theorem boundHeaders_built {operation : Operation} (distinct : (argumentNames operation).Nodup)
    (operationId : String) (info : Info) (server : Server) (versions : Versions)
    (segments : List Segment) (given : Entries) :
    boundHeaders (built operation operationId info server versions segments).request given =
      asEntries (boundSource operation info versions given) := by
  have declared : ((withArguments (explicitParameters operation)).filter
      (·.1.location == .header)) = withArguments (parametersAt .header operation) :=
    withArguments_filter (·.location == .header) _
  have named : (headerBindings (withArguments (explicitParameters operation)) info versions).map
      (fun binding => (binding.key, sourceValue given binding.source)) =
        boundSource operation info versions given := by
    rw [headerBindings, declared]
    simp only [List.map_append, List.map_cons, map_versionBinding, boundSource, declaredSource,
      withArguments, List.map_map, List.cons_append]
    rfl
  have entries : (headerBindings (withArguments (explicitParameters operation)) info versions).map
      (fun binding => (Value.str binding.key, sourceValue given binding.source)) =
        asEntries (boundSource operation info versions given) := by
    rw [← named, asEntries, List.map_map]
    rfl
  change Value.ofEntries ((headerBindings (withArguments (explicitParameters operation)) info
    versions).map fun binding => (Value.str binding.key, sourceValue given binding.source)) = _
  rw [entries]
  exact Value.foldl_insert_of_distinct (nodup_boundSource distinct) (by simp)

theorem valueOf_versionSource_of_ne {key name : String} (differs : Text.lowercased key ≠ name)
    (version : Option String) : valueOf (versionSource key version) name = none := by
  rcases versionSource_cases key version with none | ⟨text, one⟩
  · simp [none, valueOf]
  · simp [one, valueOf, bears, differs]

theorem valueOf_versionSource_self {key name : String} (same : Text.lowercased key = name)
    {version : String} (filled : version ≠ "") :
    valueOf (versionSource key (some version)) name = some (.str version) := by
  simp [versionSource, valueOf, bears, same]

/-- No parameter stands above a version. -/
theorem valueOf_headerSources {name : String} (named : name ∈ versionHeaders.map Text.lowercased)
    (operation : Operation) (info : Info) (versions : Versions) (request : RequestPlan)
    (given : Entries) (callers : Headers) :
    valueOf (headerSources operation info versions request given callers) name =
      (valueOf (versionSource appVersionHeader versions.app) name).or
        ((valueOf (versionSource sdkVersionHeader versions.sdk) name).or
          (valueOf ((apiVersionHeader, .str info.version) :: callers.reverse ++
            contentTypeSource request) name)) := by
  have undeclared : valueOf (declaredSource operation given).reverse name = none := by
    rw [valueOf, Option.map_eq_none_iff, List.find?_eq_none]
    intro header member same
    rw [bears, beq_iff_eq] at same
    exact forall_mem_declaredSource header (List.mem_reverse.mp member) (same ▸ named)
  simp only [headerSources, List.append_assoc, valueOf_append, undeclared, Option.none_or,
    List.cons_append, List.nil_append]

/-- The headers of a request are what its sources say, merged. -/
theorem headersOf_built {operation : Operation} (distinct : (argumentNames operation).Nodup)
    (operationId : String) (info : Info) (server : Server) (versions : Versions)
    (segments : List Segment) (given : Entries) {callers : Value} {calling : Headers}
    (headers : OptionalMapping callers (asEntries calling)) :
    headersOf (built operation operationId info server versions segments).request given callers =
      .ok (asEntries (((contentTypeSource
          (built operation operationId info server versions segments).request ++ calling ++
            boundSource operation info versions given).foldl place []).filter
              fun header => isSet header.2)) := by
  generalize planned : built operation operationId info server versions segments = plan
  have bound : boundHeaders plan.request given =
      asEntries (boundSource operation info versions given) := by
    rw [← planned]
    exact boundHeaders_built distinct operationId info server versions segments given
  have declared : contentTypeLayer plan.request =
      [contentTypeSource plan.request].map (fun layer => Value.map (asEntries layer)) ∨
        contentTypeLayer plan.request = [] ∧ contentTypeSource plan.request = [] := by
    unfold contentTypeLayer contentTypeSource
    split
    · exact Or.inl rfl
    · exact Or.inr ⟨rfl, rfl⟩
  have merged : mergeHeaders (contentTypeLayer plan.request ++
      [callers.orElse (.map []), .map (boundHeaders plan.request given)]) =
        .ok (asEntries ((contentTypeSource plan.request ++ calling ++
          boundSource operation info versions given).foldl place [])) := by
    rw [orElse_eq headers, bound]
    rcases declared with sent | ⟨unsent, silent⟩
    · rw [sent]
      exact (mergeHeaders_asEntries [contentTypeSource plan.request, calling,
        boundSource operation info versions given]).trans (by simp)
    · rw [unsent, silent]
      exact (mergeHeaders_asEntries [calling, boundSource operation info versions given]).trans
        (by simp)
  rw [headersOf, merged]
  exact congrArg Except.ok (asEntries_filter isSet _)

/-- The headers of a dispatched request are merged ahead of everything else that the options
replace. -/
theorem field?_headers_of_evaluate {functions : List String} {plan : Plan}
    {parameters options : Value}
    {given replacing request : Entries} (arguments : OptionalMapping parameters given)
    (replaced : OptionalMapping options replacing)
    (dispatched : evaluate functions plan parameters options = .ok request) :
    ∃ headers, headersOf plan.request (if plan.takesParameters then given else [])
        (entry replacing "headers") = .ok headers ∧
      Value.field? request "headers" = some (.map headers) := by
  obtain ⟨parts, assembles, rfl⟩ := evaluate_eq_ok_iff.mp dispatched
  have taken := Except.ok.inj ((argumentsOf_eq arguments).symm.trans assembles.arguments)
  have own := Except.ok.inj ((optionalEntries_eq replaced).symm.trans assembles.options)
  rw [taken, own]
  exact ⟨parts.headers, assembles.headers, Parts.field?_headers parts plan.request⟩

/-- What is given counts for nothing where there are no parameters. -/
theorem boundSource_taken {operation : Operation} {operationId : String} {info : Info}
    {server : Server} {versions : Versions} {segments : List Segment} (given : Entries) :
    boundSource operation info versions
        (if (built operation operationId info server versions segments).takesParameters then given
          else []) =
      boundSource operation info versions given := by
  cases takes : (built operation operationId info server versions segments).takesParameters with
  | true => rfl
  | false =>
      obtain ⟨none, -⟩ := (takesParameters_built_eq_false_iff ..).mp takes
      simp [boundSource, declaredSource, parametersAt, none]

/-- Whatever is given, each name has at most one header in a dispatched request, and its value is
that of the strongest source that mentions it: the later of the declared parameters, the versions,
the later of the caller's headers, the declared media type. What is unset there is left out. -/
theorem evaluate_headers {operation : Operation} {info : Info} {servers : List Server}
    {versions : Versions} {plan : Plan}
    (planned : ofOperation operation info servers versions = .ok plan) {functions : List String}
    {parameters options : Value} {given replacing request : Entries} {callers : Headers}
    (arguments : OptionalMapping parameters given) (replaced : OptionalMapping options replacing)
    (calling : OptionalMapping (entry replacing "headers") (asEntries callers))
    (dispatched : evaluate functions plan parameters options = .ok request) :
    ∃ headers : Headers, Value.field? request "headers" = some (.map (asEntries headers)) ∧
      Apart headers ∧
      (∀ name, valueOf headers name =
        (valueOf (headerSources operation info versions plan.request given callers) name).filter
          isSet) ∧
      valueOf headers "x-api-version" = some (.str info.version) ∧
      (∀ version, versions.sdk = some version → version ≠ "" →
        valueOf headers "x-sdk-version" = some (.str version)) ∧
      (∀ version, versions.app = some version → version ≠ "" →
        valueOf headers "x-app-version" = some (.str version)) := by
  obtain ⟨operationId, server, others, segments, -, -, rfl, distinct, -, -, rfl⟩ :=
    ofOperation_eq_ok_iff.mp planned
  obtain ⟨merged, found, field⟩ := field?_headers_of_evaluate arguments replaced dispatched
  rw [headersOf_built distinct _ _ _ _ _ _ calling, Except.ok.injEq, boundSource_taken] at found
  obtain rfl := found
  generalize plan_eq : built operation operationId info server versions segments = plan at field ⊢
  have value (name : String) :
      valueOf (((contentTypeSource plan.request ++ callers ++
          boundSource operation info versions given).foldl place []).filter
            fun header => isSet header.2) name =
        (valueOf (headerSources operation info versions plan.request given callers) name).filter
          isSet := by
    rw [valueOf_filter (apart_foldl_place apart_nil), valueOf_foldl_place,
      ← headerSources_eq]
    exact congrArg (Option.filter isSet) (Option.or_none)
  refine ⟨_, field, apart_filter (apart_foldl_place apart_nil) _, value, ?_, ?_, ?_⟩
  · have lower : Text.lowercased apiVersionHeader = "x-api-version" := by decide
    rw [value, valueOf_headerSources (by decide), valueOf_versionSource_of_ne (by decide),
      valueOf_versionSource_of_ne (by decide), List.cons_append, valueOf_cons_self lower _ _]
    rfl
  · intro version given filled
    rw [value, valueOf_headerSources (by decide), given,
      valueOf_versionSource_of_ne (by decide), valueOf_versionSource_self (by decide) filled]
    rfl
  · intro version given filled
    rw [value, valueOf_headerSources (by decide), given,
      valueOf_versionSource_self (by decide) filled]
    rfl

def ordersArguments : Entries := [(.str "user_id", .int 7)]

/-- Headers of a caller, one of them called like a version. -/
def ordersCallers : Headers := [("x-APP-version", .null), ("Accept", .str "text/plain")]

def ordersOptions : Entries := [(.str "headers", .map (asEntries ordersCallers))]

theorem exists_request_ordersOperation :
    ∃ plan, ofOperation ordersOperation shopInfo shopServers shopVersions = .ok plan ∧
      ∃ request, evaluate [] plan (.map ordersArguments) (.map ordersOptions) = .ok request := by
  obtain ⟨plan, planned⟩ := exists_plan_ordersOperation
  have dispatched : (do
      let plan ← (ofOperation ordersOperation shopInfo shopServers shopVersions).toOption
      (evaluate [] plan (.map ordersArguments) (.map ordersOptions)).toOption).isSome = true := by
    decide +kernel
  rw [planned] at dispatched
  refine ⟨plan, planned, ?_⟩
  cases sent : evaluate [] plan (.map ordersArguments) (.map ordersOptions) with
  | ok request => exact ⟨request, rfl⟩
  | error fault =>
      rw [Except.toOption, Option.bind_eq_bind, Option.bind_some, sent] at dispatched
      contradiction

/-- A caller's header that is called like a version is no match for it. -/
theorem evaluate_headers_ordersOperation :
    ∃ plan request headers,
      ofOperation ordersOperation shopInfo shopServers shopVersions = .ok plan ∧
        evaluate [] plan (.map ordersArguments) (.map ordersOptions) = .ok request ∧
        Value.field? request "headers" = some (.map (asEntries headers)) ∧
        valueOf headers "x-app-version" = some (.str "2") := by
  obtain ⟨plan, planned, request, dispatched⟩ := exists_request_ordersOperation
  have calling : OptionalMapping (entry ordersOptions "headers") (asEntries ordersCallers) := by
    rw [entry, ordersOptions, Value.field?_cons_self]
    exact .mapping _
  obtain ⟨headers, field, -, -, -, -, app⟩ :=
    evaluate_headers planned (.mapping _) (.mapping _) calling dispatched
  exact ⟨plan, request, headers, planned, dispatched, field, app "2" rfl (by decide)⟩

end ApiCompiler.Call
