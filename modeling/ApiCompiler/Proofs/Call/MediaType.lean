import ApiCompiler.Proofs.Call.HeaderArguments
import ApiCompiler.Proofs.Text.Lowercase

/-!
# Media types of bodies

Which media type a body is sent as. A declared type is told by a header where its keyword does not
imply it. A type of JSON with a suffix counts as a wildcard wherever an asterisk stands in its text,
also behind its semicolon; then no header tells it, and the body is sent as plain JSON.
-/

namespace ApiCompiler

open Text

/-- The media type that a body is sent as where no header tells one. -/
def BodyField.label : BodyField → Option String
  | .json => some "application/json"
  | .data => some "application/x-www-form-urlencoded"
  | .files => none
  | .content => none

namespace Plan

/-- A media type of JSON with a suffix, and with an asterisk anywhere in its text. -/
def IsTakenForWildcard (declared : String) : Prop :=
  mediaType declared ≠ "application/json" ∧ "+json".toList <:+ (mediaType declared).toList ∧
    '*' ∈ declared.toList

/-- An asterisk of a media type stands in front of the semicolon. -/
theorem asterisk_mem_of_mem_mediaType {declared : String}
    (member : '*' ∈ (mediaType declared).toList) :
    '*' ∈ declared.toList.takeWhile (· != ';') := by
  rw [mediaType, String.toList_ofList] at member
  exact trim_subset _ (mem_of_mem_lowercase (by decide) member)

/-- A concrete media type is of JSON, or its body is carried by a keyword of its own. -/
theorem bodyFieldOf_cases {declared : String} (filled : declared ≠ "")
    (concrete : '*' ∉ declared.toList.takeWhile (· != ';')) :
    bodyFieldOf (some declared) = .json ∧
        (mediaType declared = "application/json" ∨ "+json".toList <:+ (mediaType declared).toList) ∨
      ¬"+json".toList <:+ (mediaType declared).toList ∧
        (bodyFieldOf (some declared) = .data ∧
            mediaType declared = "application/x-www-form-urlencoded" ∨
          bodyFieldOf (some declared) = .files ∧ mediaType declared = "multipart/form-data" ∨
          bodyFieldOf (some declared) = .content) := by
  have whole : (mediaType declared).toList.contains '*' = false := by
    rw [← Bool.not_eq_true, List.contains_iff_mem]
    exact fun member => concrete (asterisk_mem_of_mem_mediaType member)
  rw [bodyFieldOf_some filled, whole, Bool.or_false]
  split
  · next json =>
    rw [Bool.or_eq_true, beq_iff_eq, List.isSuffixOf_iff_suffix] at json
    exact .inl ⟨rfl, json⟩
  · next others =>
    rw [Bool.or_eq_true, beq_iff_eq, List.isSuffixOf_iff_suffix, not_or] at others
    refine .inr ⟨others.2, ?_⟩
    split
    · next form => exact .inl ⟨rfl, beq_iff_eq.mp form⟩
    · split
      · next parts => exact .inr (.inl ⟨rfl, beq_iff_eq.mp parts⟩)
      · exact .inr (.inr rfl)

/-- A body that is declared with a media type, and carried accordingly. -/
structure Declares (request : RequestPlan) (declared : String) : Prop where
  carries : request.carriesBody = true
  contentType : request.contentType = some declared
  bodyField : request.bodyField = bodyFieldOf (some declared)
  filled : declared ≠ ""
  concrete : '*' ∉ declared.toList.takeWhile (· != ';')
  whole : mediaType declared ≠ "multipart/form-data"

namespace Declares

variable {request : RequestPlan} {declared : String}

theorem sendsContentType_eq_true_iff (declares : Declares request declared) :
    request.sendsContentType = true ↔
      request.bodyField = .content ∨
        request.bodyField = .json ∧ declared ≠ "application/json" ∧ '*' ∉ declared.toList := by
  simp [RequestPlan.sendsContentType, declares.contentType, declares.carries,
    declares.filled, and_assoc]

/-- No type that is sent is taken for a wildcard. -/
theorem not_isTakenForWildcard_of_sendsContentType (declares : Declares request declared)
    (sends : request.sendsContentType = true) : ¬IsTakenForWildcard declared := by
  rintro ⟨-, suffix, asterisk⟩
  have carried := declares.bodyField
  rcases declares.sendsContentType_eq_true_iff.mp sends with content | ⟨-, -, absent⟩
  · rcases bodyFieldOf_cases declares.filled declares.concrete with ⟨json, -⟩ | ⟨unsuffixed, -⟩
    · rw [content, json] at carried
      contradiction
    · exact unsuffixed suffix
  · exact absent asterisk

/-- Where no type is sent, the keyword implies the declared one, or plain JSON in place of one that
is taken for a wildcard. -/
theorem label_of_not_sendsContentType (declares : Declares request declared)
    (unsent : request.sendsContentType = false) :
    ∃ label, request.bodyField.label = some label ∧
      (IsTakenForWildcard declared → label = "application/json") ∧
      (¬IsTakenForWildcard declared → mediaType label = mediaType declared) := by
  have untold := declares.sendsContentType_eq_true_iff.not.mp (Bool.not_eq_true _ ▸ unsent)
  rw [not_or] at untold
  have carried := declares.bodyField
  rcases bodyFieldOf_cases declares.filled declares.concrete with
    ⟨json, kind⟩ | ⟨unsuffixed, ⟨data, form⟩ | ⟨-, parts⟩ | content⟩
  · rw [json] at carried
    refine ⟨"application/json", by rw [carried]; rfl, fun _ => rfl, fun untaken => ?_⟩
    have plain : mediaType "application/json" = "application/json" := by decide
    rw [plain]
    by_cases asterisk : '*' ∈ declared.toList
    · rcases kind with same | suffix
      · exact same.symm
      · by_contra differs
        exact untaken ⟨fun same => differs same.symm, suffix, asterisk⟩
    · have same : declared = "application/json" := by
        by_contra differs
        exact untold.2 ⟨carried, differs, asterisk⟩
      rw [same, plain]
  · rw [data] at carried
    have plain : mediaType "application/x-www-form-urlencoded" =
      "application/x-www-form-urlencoded" := by decide
    exact ⟨_, by rw [carried]; rfl, fun taken => absurd taken.2.1 unsuffixed,
      fun _ => plain.trans form.symm⟩
  · exact absurd parts declares.whole
  · exact absurd (carried.trans content) untold.1

end Declares

end Plan

namespace Call

open Outcome Plan Value

/-- Whether a header tells the media type of the body. -/
def tellsType (header : Value × Value) : Bool :=
  match foldedName header.1 with
  | .ok (.str name) => name == "content-type"
  | .ok (.bytes name) => name == "content-type".toList.map Char.toUInt8
  | _ => false

/-- The media type that a body is sent as: that of a header, or else what its keyword implies. -/
def sentType (headers : Entries) (field : BodyField) : Option String :=
  match headers.filter tellsType with
  | [] => field.label
  | (_, .str told) :: _ => some told
  | _ => none

/-- A header that tells the media type is the same as none that does not. -/
theorem sameKey_eq_false_of_tellsType {header other : Value × Value} {name otherName : Value}
    (folded : foldedName header.1 = .ok name) (alsoFolded : foldedName other.1 = .ok otherName)
    (tells : tellsType header = true) (silent : tellsType other = false) :
    sameKey name otherName = false := by
  rw [tellsType, folded] at tells
  rw [tellsType, alsoFolded] at silent
  rw [← Bool.not_eq_true]
  intro same
  cases name with
  | str text =>
      rw [sameKey_str_left] at same
      subst same
      exact Bool.noConfusion (tells.symm.trans silent)
  | bytes content =>
      cases otherName with
      | bytes otherContent =>
          rw [sameKey, beq_iff_eq] at same
          subst same
          exact Bool.noConfusion (tells.symm.trans silent)
      | _ => simp [sameKey] at same
  | _ => contradiction

/-- A header that tells no media type drops none that does. -/
theorem filter_tellsType_of_addHeader {merged after : Entries} {header : Value × Value}
    (silent : tellsType header = false) (added : addHeader merged header = .ok after) :
    after.filter tellsType = merged.filter tellsType := by
  have alone : [header].filter tellsType = [] := by simp [silent]
  cases merged with
  | nil =>
      obtain rfl := Except.ok.inj added
      exact alone
  | cons first rest =>
      obtain ⟨folded, lower, added⟩ := bind_eq_ok.mp
        (show foldedName header.1 >>= _ = Except.ok after from added)
      obtain ⟨kept, filtered, rest_eq⟩ := bind_eq_ok.mp added
      obtain rfl := Except.ok.inj rest_eq
      obtain ⟨keeps, agrees, rfl⟩ := exists_filter_of_filterM filtered
      rw [List.filter_append, alone, List.append_nil, List.filter_filter]
      refine List.filter_congr fun entry member => ?_
      cases tells : tellsType entry with
      | false => rfl
      | true =>
          obtain ⟨name, own, test⟩ := bind_eq_ok.mp (agrees entry member)
          have kept := Except.ok.inj test
          rw [← kept, sameKey_eq_false_of_tellsType own lower tells silent]
          rfl

theorem filter_tellsType_of_foldlM {headers merged after : Entries}
    (silent : ∀ header ∈ headers, tellsType header = false)
    (added : headers.foldlM addHeader merged = .ok after) :
    after.filter tellsType = merged.filter tellsType := by
  induction headers generalizing merged with
  | nil => rw [Except.ok.inj added]
  | cons header headers induction =>
      obtain ⟨own, others⟩ := List.forall_mem_cons.mp silent
      obtain ⟨placed, first, rest⟩ := bind_eq_ok.mp
        (show addHeader merged header >>= _ = Except.ok after from added)
      rw [induction others rest, filter_tellsType_of_addHeader own first]

theorem addLayer_eq_ok_iff {merged after : Entries} {layer : Value} :
    addLayer merged layer = .ok after ↔
      ∃ headers, layer = .map headers ∧ headers.foldlM addHeader merged = .ok after := by
  rw [addLayer, bind_eq_ok]
  cases layer <;> simp [layerEntries]

/-- No header of a caller tells the media type. -/
def TellsNoType (callers : Value) : Prop :=
  ∀ headers, callers = .map headers → ∀ header ∈ headers, tellsType header = false

theorem TellsNoType.orElse {callers : Value} (silent : TellsNoType callers) :
    TellsNoType (callers.orElse (.map [])) := by
  intro headers given
  rw [Value.orElse] at given
  split at given
  · obtain rfl := Value.map.inj given
    exact fun _ member => absurd member List.not_mem_nil
  · exact silent headers given

theorem filter_tellsType_contentTypeSource (request : RequestPlan) :
    (asEntries (contentTypeSource request)).filter tellsType =
      asEntries (contentTypeSource request) := by
  refine List.filter_eq_self.mpr fun header member => ?_
  unfold contentTypeSource at member
  split at member
  · obtain rfl := List.mem_singleton.mp member
    have lower : lowercased "Content-Type" = "content-type" := by decide
    exact beq_iff_eq.mpr lower
  · contradiction

/-- Below the headers that a plan binds, only the declared type is told. -/
theorem filter_tellsType_of_mergeHeaders {request : RequestPlan} {callers : Value}
    {merged : Entries}
    (silent : TellsNoType callers)
    (below : mergeHeaders (contentTypeLayer request ++ [callers.orElse (.map [])]) = .ok merged) :
    merged.filter tellsType = asEntries (contentTypeSource request) := by
  have layer : (contentTypeLayer request).foldlM addLayer [] =
      .ok (asEntries (contentTypeSource request)) := by
    unfold contentTypeLayer contentTypeSource
    split <;> rfl
  rw [mergeHeaders, List.foldlM_append, layer] at below
  have added : addLayer (asEntries (contentTypeSource request)) (callers.orElse (.map [])) =
      .ok merged := (bind_pure _).symm.trans below
  obtain ⟨headers, given, added⟩ := addLayer_eq_ok_iff.mp added
  rw [filter_tellsType_of_foldlM (silent.orElse headers given) added,
    filter_tellsType_contentTypeSource]

/-- No header parameter has the name of the media type. -/
def DeclaresNoType (operation : Operation) : Prop :=
  ∀ parameter ∈ operation.parameters, parameter.location = .header →
    lowercased parameter.name ≠ "content-type"

theorem tellsType_of_mem_boundSource {operation : Operation} (silent : DeclaresNoType operation)
    {info : Info} {versions : Versions} {given : Entries} :
    ∀ header ∈ asEntries (boundSource operation info versions given), tellsType header = false := by
  have version {key : String} (other : lowercased key ≠ "content-type") (version : Option String) :
      ∀ header ∈ asEntries (versionSource key version), tellsType header = false := by
    intro header member
    rcases versionSource_cases key version with none | ⟨text, one⟩
    · simp [none, asEntries] at member
    · obtain rfl : header = (.str key, .str text) := by simpa [one, asEntries] using member
      exact beq_false_of_ne other
  have api : ∀ header ∈ asEntries [(apiVersionHeader, .str info.version)],
    tellsType header = false := by
    intro header member
    obtain rfl := List.mem_singleton.mp member
    have other : lowercased apiVersionHeader ≠ "content-type" := by decide
    exact beq_false_of_ne other
  intro header member
  rw [boundSource, ← List.singleton_append, asEntries_append, asEntries_append, asEntries_append,
    List.mem_append, List.mem_append, List.mem_append] at member
  rcases member with ((own | sdk) | app) | declared
  · exact api header own
  · exact version (by decide) versions.sdk header sdk
  · exact version (by decide) versions.app header app
  · obtain ⟨_, source, rfl⟩ := List.mem_map.mp declared
    obtain ⟨parameter, among, rfl⟩ := List.mem_map.mp source
    obtain ⟨explicit, atHeader⟩ := mem_parametersAt.mp among
    exact beq_false_of_ne (silent parameter (List.mem_filter.mp explicit).1 atHeader)

/-- The headers of a request tell a media type exactly where the declared one is sent. -/
theorem filter_tellsType_of_headersOf {operation : Operation}
    (distinct : (argumentNames operation).Nodup) (undeclared : DeclaresNoType operation)
    {operationId : String} {info : Info} {server : Server} {versions : Versions}
    {segments : List Segment} {given headers : Entries} {callers : Value}
    (silent : TellsNoType callers)
    (merged : headersOf (built operation operationId info server versions segments).request given
      callers = .ok headers) :
    headers.filter tellsType =
      asEntries (contentTypeSource
        (built operation operationId info server versions segments).request) := by
  obtain ⟨below, after, laid, added, rfl⟩ := headersOf_eq_ok_iff.mp merged
  rw [boundHeaders_built distinct] at added
  have told : after.filter tellsType = _ :=
    (filter_tellsType_of_foldlM (tellsType_of_mem_boundSource undeclared) added).trans
      (filter_tellsType_of_mergeHeaders silent laid)
  rw [setHeaders, List.filter_comm, told]
  unfold contentTypeSource
  split <;> rfl

/-- The options that do not carry a body of their own leave that of the call under its keyword. -/
theorem Parts.field?_bodyField {parts : Parts} {plan : RequestPlan}
    (carries : plan.carriesBody = true)
    (kept : ∀ option ∈ parts.options, option.1 ≠ .str plan.bodyField.name) :
    field? (parts.request plan) plan.bodyField.name =
      some (entry parts.arguments bodyArgument) := by
  rw [request, field?_update_of_forall_ne (forall_mem_replacing_ne kept), bodyEntry, if_pos carries]
  cases plan.bodyField <;> rfl

/-- The type that a body is sent as is the declared one, up to what stands behind its semicolon,
except that a type that is taken for a wildcard is sent as plain JSON. -/
theorem sentType_of_evaluate {operation : Operation} {info : Info} {servers : List Server}
    {versions : Versions} {plan : Plan}
    (planned : ofOperation operation info servers versions = .ok plan)
    {body : Body} (carries : operation.body = some body) {declared : String}
    (first : body.contentTypes.head? = some declared) (filled : declared ≠ "")
    (concrete : '*' ∉ declared.toList.takeWhile (· != ';'))
    (whole : mediaType declared ≠ "multipart/form-data") (undeclared : DeclaresNoType operation)
    {functions : List String} {parameters options : Value} {replacing request : Entries}
    (given : optionalEntries options = .ok replacing)
    (silent : TellsNoType (entry replacing "headers"))
    (dispatched : evaluate functions plan parameters options = .ok request) :
    ∃ arguments headers sent, argumentsOf plan parameters = .ok arguments ∧
      ((∀ option ∈ replacing, option.1 ≠ .str plan.request.bodyField.name) →
        field? request plan.request.bodyField.name = some (entry arguments bodyArgument)) ∧
      field? request "headers" = some (.map headers) ∧
      sentType headers plan.request.bodyField = some sent ∧
      (mediaType sent = mediaType declared ↔ ¬IsTakenForWildcard declared) ∧
      (IsTakenForWildcard declared → sent = "application/json") := by
  obtain ⟨operationId, server, _, segments, -, -, rfl, distinct, -, -, rfl⟩ :=
    ofOperation_eq_ok_iff.mp planned
  obtain ⟨parts, assembles, rfl⟩ := evaluate_eq_ok_iff.mp dispatched
  obtain rfl : parts.options = replacing := Except.ok.inj (assembles.options.symm.trans given)
  have told := filter_tellsType_of_headersOf distinct undeclared silent assembles.headers
  have type : (operation.body.bind (·.contentTypes.head?)) = some declared := by
    rw [carries, Option.bind_some, first]
  have declares : Declares (built operation operationId info server versions segments).request
      declared :=
    ⟨Option.isSome_iff_exists.mpr ⟨body, carries⟩, type, congrArg bodyFieldOf type,
      filled, concrete, whole⟩
  have taken := assembles.arguments
  generalize planned : built operation operationId info server versions segments = plan at *
  suffices sent : ∃ sent, sentType parts.headers plan.request.bodyField = some sent ∧
      (mediaType sent = mediaType declared ↔ ¬IsTakenForWildcard declared) ∧
      (IsTakenForWildcard declared → sent = "application/json") by
    obtain ⟨sent, found, agrees⟩ := sent
    exact ⟨parts.arguments, parts.headers, sent, taken, Parts.field?_bodyField declares.carries,
      Parts.field?_headers parts _, found, agrees⟩
  rw [sentType, told, contentTypeSource]
  cases sends : plan.request.sendsContentType with
  | true =>
      have untaken := declares.not_isTakenForWildcard_of_sendsContentType sends
      refine ⟨declared, ?_, iff_of_true rfl untaken, fun taken => absurd taken untaken⟩
      rw [if_pos rfl, declares.contentType]
      rfl
  | false =>
      obtain ⟨label, implied, taken, untaken⟩ := declares.label_of_not_sendsContentType sends
      refine ⟨label, implied, ⟨fun same wildcard => ?_, untaken⟩, taken⟩
      rw [taken wildcard] at same
      exact wildcard.1 same.symm

/-- An operation with a body of a media type. -/
def publishOperation (contentType : String) : Operation where
  path := "/articles"
  method := .post
  operationId := some "publish"
  summary := none
  description := none
  parameters := [⟨"X-Content-Type", .header, false, false, none, ["string"]⟩]
  body := some ⟨true, none, [contentType, "text/plain"]⟩

def publishPlan (contentType : String) : Plan :=
  built (publishOperation contentType) "publish" limitsInfo
    ⟨"http://api.test/v1", none⟩ limitsVersions
    [.literal "articles"]

theorem ofOperation_publishOperation (contentType : String) :
    ofOperation (publishOperation contentType) limitsInfo limitsServers limitsVersions =
      .ok (publishPlan contentType) := by
  have names : argumentNames (publishOperation contentType) = ["x_content_type"] := by
    change argumentNames (publishOperation "") = _
    decide
  refine ofOperation_eq_ok_iff.mpr ⟨"publish", _, [], _, rfl, by decide, rfl, ?_, ?_, ?_, rfl⟩
  · rw [names]
    decide
  · rw [names]
    exact fun _ => by decide
  · have none : parametersAt .path (publishOperation contentType) = [] := by
      change parametersAt .path (publishOperation "") = _
      decide
    rw [none]
    exact (rfl : segmentsOf [] "/articles" = .ok [.literal "articles"])

def publishRequest (headers : Entries) (body : Value) : Entries :=
  [(.str "base_url", .str "http://api.test/v1"), (.str "method", .str "POST"),
    (.str "url", .str "articles"), (.str "headers", .map headers), (.str "params", .map []),
    (.str "json", body)]

/-- A type of JSON with a suffix, in capitals, is told beside a header of the caller. -/
theorem sentType_of_evaluate_publishOperation :
    ∃ headers sent,
      evaluate [] (publishPlan "Application/Problem+JSON; a=b")
      (.map [(.str "body", .list [.int 1])])
          (.map [(.str "headers", .map [(.bytes [0x41], .str "b")])]) =
        .ok (publishRequest headers (.list [.int 1])) ∧
        sentType headers .json = some sent ∧
        mediaType sent = "application/problem+json" := by
  have dispatched : evaluate [] (publishPlan "Application/Problem+JSON; a=b")
      (.map [(.str "body", .list [.int 1])])
      (.map [(.str "headers", .map [(.bytes [0x41], .str "b")])]) =
        .ok (publishRequest [(.str "Content-Type", .str "Application/Problem+JSON; a=b"),
          (.bytes [0x41], .str "b"), (.str "X-API-Version", .str "1")] (.list [.int 1])) := rfl
  have concrete : '*' ∉ "Application/Problem+JSON; a=b".toList.takeWhile (· != ';') := by decide
  have single : mediaType "Application/Problem+JSON; a=b" = "application/problem+json" := by decide
  have undeclared : DeclaresNoType (publishOperation "Application/Problem+JSON; a=b") := by
    intro parameter member _
    obtain rfl := List.mem_singleton.mp member
    decide
  have silent :
      TellsNoType (entry [(.str "headers", .map [(.bytes [0x41], .str "b")])] "headers") := by
    rintro _ ⟨rfl⟩ header member
    obtain rfl := List.mem_singleton.mp member
    decide
  obtain ⟨_, headers, sent, -, -, field, found, same, -⟩ :=
    sentType_of_evaluate (ofOperation_publishOperation _) rfl rfl (by decide) concrete
      (by rw [single]; decide) undeclared rfl silent dispatched
  obtain rfl := Value.map.inj (Option.some.inj field)
  refine ⟨_, sent, dispatched, found, ?_⟩
  rw [same.mpr fun taken => absurd taken.2.2 (by decide), single]

/-- An asterisk behind the semicolon leaves the body to be sent as plain JSON. -/
theorem asterisk_behind_semicolon_drops_type :
    '*' ∉ "application/vnd.api+json; profile=*".toList.takeWhile (· != ';') ∧
      mediaType "application/vnd.api+json; profile=*" = "application/vnd.api+json" ∧
      ofOperation (publishOperation "application/vnd.api+json; profile=*") limitsInfo limitsServers
          limitsVersions = .ok (publishPlan "application/vnd.api+json; profile=*") ∧
      evaluate [] (publishPlan "application/vnd.api+json; profile=*")
          (.map [(.str "body", .list [.int 1])]) .null =
        .ok (publishRequest [(.str "X-API-Version", .str "1")] (.list [.int 1])) ∧
      (sentType [(.str "X-API-Version", .str "1")]
          (publishPlan "application/vnd.api+json; profile=*").request.bodyField).map mediaType =
        some "application/json" :=
  ⟨by decide, by decide, ofOperation_publishOperation _, rfl, by decide⟩

end Call

end ApiCompiler
