import ApiCompiler.Proofs.Call.Dispatch
import ApiCompiler.Proofs.Call.Headers

/-!
# Header arguments

What becomes of a header argument that a call supplies. Arguments are told apart by their names, in
which case counts where it divides words; headers merge by their names without regard to case. So an
argument reaches the request under its declared name exactly where no parameter declared after it
has the same header name, and is lost otherwise, even to a parameter that is not set.
-/

namespace ApiCompiler.Call

open Outcome Plan Value

/-- Whatever is kept by a test that may fail is kept by one that agrees with it and does not. -/
theorem exists_filter_of_filterM {ε α : Type} {items kept : List α} {test : α → Except ε Bool}
    (success : items.filterM test = .ok kept) :
    ∃ keeps : α → Bool, (∀ item ∈ items, test item = .ok (keeps item)) ∧
      kept = items.filter keeps := by
  have tested : ∀ item ∈ items, ∃ keep, test item = .ok keep := by
    obtain ⟨gathered, passed, -⟩ := bind_eq_ok.mp success
    clear success
    generalize [] = held at passed
    induction items generalizing held with
    | nil => exact fun _ member => absurd member List.not_mem_nil
    | cons item items induction =>
        rw [List.filterAuxM, bind_eq_ok] at passed
        obtain ⟨keep, own, others⟩ := passed
        exact List.forall_mem_cons.mpr ⟨⟨keep, own⟩, induction _ others⟩
  let keeps (item : α) : Bool := (test item).toOption.getD false
  have agrees : ∀ item ∈ items, test item = .ok (keeps item) := by
    intro item member
    obtain ⟨keep, own⟩ := tested item member
    simp [keeps, own, Except.toOption]
  have filtered : (items.map id).filterM test = .ok ((items.filter keeps).map id) :=
    filterM_map_of_forall_ok agrees
  rw [List.map_id, List.map_id, success] at filtered
  exact ⟨keeps, agrees, Except.ok.inj filtered⟩

/-- A header under a text is added behind headers that are there already; of those under texts, it
drops the ones of its name. -/
theorem exists_kept_of_addHeader {merged after : Entries} {key : String} {value : Value}
    (added : addHeader merged (.str key, value) = .ok after) :
    ∃ keeps : Value × Value → Bool, after = merged.filter keeps ++ [(.str key, value)] ∧
      ∀ entry ∈ merged, ∀ name, entry.1 = .str name →
        keeps entry = !(Text.lowercased name == Text.lowercased key) := by
  cases merged with
  | nil =>
      exact ⟨fun _ => true, (Except.ok.inj added).symm,
        fun _ member => absurd member List.not_mem_nil⟩
  | cons first rest =>
      obtain ⟨folded, lower, added⟩ := bind_eq_ok.mp
        (show foldedName (.str key) >>= _ = Except.ok after from added)
      obtain rfl : Value.str (Text.lowercased key) = folded := Except.ok.inj lower
      obtain ⟨kept, filtered, rest_eq⟩ := bind_eq_ok.mp added
      obtain rfl := Except.ok.inj rest_eq
      obtain ⟨keeps, agrees, rfl⟩ := exists_filter_of_filterM filtered
      refine ⟨keeps, rfl, fun entry member name named => ?_⟩
      have own := agrees entry member
      rw [named] at own
      exact (Except.ok.inj own).symm

/-- A header that is added is found under its own name; any other spelling of the name is dropped,
and no other name is touched. -/
theorem field?_of_addHeader {merged after : Entries} {key : String} {value : Value}
    (added : addHeader merged (.str key, value) = .ok after) (name : String) :
    field? after name =
      if key = name then some value
      else if Text.lowercased key = Text.lowercased name then none
      else field? merged name := by
  obtain ⟨keeps, rfl, agrees⟩ := exists_kept_of_addHeader added
  have dropped (same : Text.lowercased key = Text.lowercased name) :
      field? (merged.filter keeps) name = none := by
    refine field?_eq_none_iff.mpr fun entry member named => ?_
    obtain ⟨held, kept⟩ := List.mem_filter.mp member
    rw [agrees entry held name named, same] at kept
    simp at kept
  rw [field?_append]
  split
  · next own =>
    rw [own, field?_cons_self, dropped (congrArg Text.lowercased own), Option.none_or]
  · next other =>
    have apart : Value.str key ≠ .str name := fun same => other (Value.str.inj same)
    rw [field?_cons_of_ne apart, field?_nil, Option.or_none]
    split
    · next same => exact dropped same
    · next differs =>
      refine field?_filter_of_forall fun entry member named => ?_
      rw [agrees entry member name named, beq_false_of_ne (Ne.symm differs), Bool.not_false]

/-- Of the headers of one name, only the last one is found, and only under its own spelling. -/
theorem field?_of_foldlM_addHeader {headers : Headers} {merged after : Entries}
    (added : (asEntries headers).foldlM addHeader merged = .ok after) (name : String) :
    field? after name =
      match headers.reverse.find? (bears (Text.lowercased name)) with
      | some header => if header.1 = name then some header.2 else none
      | none => field? merged name := by
  induction headers generalizing merged with
  | nil => rw [Except.ok.inj added]; rfl
  | cons header headers induction =>
      obtain ⟨placed, first, rest⟩ := bind_eq_ok.mp
        (show addHeader merged (.str header.1, header.2) >>= _ = Except.ok after from added)
      rw [induction rest, List.reverse_cons, List.find?_append]
      cases headers.reverse.find? (bears (Text.lowercased name)) with
      | some last => rfl
      | none =>
          rw [field?_of_addHeader first, Option.none_or]
          by_cases lower : Text.lowercased header.1 = Text.lowercased name
          · simp [bears, lower]
          · have unnamed : header.1 ≠ name := fun same => lower (congrArg Text.lowercased same)
            simp [bears, lower, unnamed]

/-- A header is found under its own spelling unless one behind it has its name in another. -/
theorem field?_of_foldlM_addHeader_append_cons {name : String} {value : Value}
    {first last : Headers}
    {merged after : Entries} (distinct : ((first ++ (name, value) :: last).map (·.1)).Nodup)
    (added : (asEntries (first ++ (name, value) :: last)).foldlM addHeader merged = .ok after) :
    ((¬∃ header ∈ last, bears (Text.lowercased name) header = true) →
      field? after name = some value) ∧
      ((∃ header ∈ last, bears (Text.lowercased name) header = true) →
        field? after name = none) := by
  have found := field?_of_foldlM_addHeader added name
  rw [List.reverse_append, List.reverse_cons, List.append_assoc, List.find?_append] at found
  constructor
  · intro others
    have none : last.reverse.find? (bears (Text.lowercased name)) = none :=
      List.find?_eq_none.mpr fun header member same =>
        others ⟨header, List.mem_reverse.mp member, same⟩
    have own : bears (Text.lowercased name) (name, value) = true := beq_self_eq_true _
    rw [found, none, Option.none_or, List.singleton_append, List.find?_cons_of_pos own]
    exact if_pos rfl
  · rintro ⟨header, member, same⟩
    obtain ⟨other, word⟩ := Option.isSome_iff_exists.mp
      (List.find?_isSome.mpr ⟨header, List.mem_reverse.mpr member, same⟩)
    have spelled : other.1 ≠ name := by
      rintro rfl
      rw [List.map_append, List.map_cons, List.nodup_append, List.nodup_cons] at distinct
      have member := List.mem_reverse.mp (List.mem_of_find?_eq_some word)
      exact distinct.2.1.1 (List.mem_map.mpr ⟨other, member, rfl⟩)
    rw [found, word]
    exact if_neg spelled

/-- The headers of a request are those that its plan binds, added one after another to what lies
below. -/
theorem headersOf_eq_ok_iff {request : RequestPlan} {arguments headers : Entries}
    {callers : Value} :
    headersOf request arguments callers = .ok headers ↔
      ∃ merged after,
        mergeHeaders (contentTypeLayer request ++ [callers.orElse (.map [])]) = .ok merged ∧
          (boundHeaders request arguments).foldlM addHeader merged = .ok after ∧
          headers = setHeaders after := by
  have layers : contentTypeLayer request ++
      [callers.orElse (.map []), .map (boundHeaders request arguments)] =
        (contentTypeLayer request ++ [callers.orElse (.map [])]) ++
          [.map (boundHeaders request arguments)] := by simp
  have last (merged : Entries) :
      [Value.map (boundHeaders request arguments)].foldlM addLayer merged =
      (boundHeaders request arguments).foldlM addHeader merged := bind_pure _
  simp only [headersOf, mergeHeaders, layers, List.foldlM_append, last, bind_eq_ok, pure,
    Except.pure, Except.ok.injEq]
  constructor
  · rintro ⟨after, ⟨merged, below, added⟩, rfl⟩
    exact ⟨merged, after, below, added, rfl⟩
  · rintro ⟨merged, after, below, added, rfl⟩
    exact ⟨after, ⟨merged, below, added⟩, rfl⟩

/-- A parameter that is declared after another has the same header name. -/
def Shadowed (later : List Parameter) (parameter : Parameter) : Prop :=
  ∃ other ∈ later, other.location = .header ∧
    Text.lowercased other.name = Text.lowercased parameter.name

theorem isReserved_congr {parameter other : Parameter}
    (same : Text.lowercased other.name = Text.lowercased parameter.name) :
    isReserved other = isReserved parameter := by
  rw [isReserved, isReserved, same]

/-- A header parameter stands among the declared headers, and behind it are those that shadow it. -/
theorem exists_declaredSource_eq {operation : Operation} {before later : List Parameter}
    {parameter : Parameter} (declared : operation.parameters = before ++ parameter :: later)
    (atHeader : parameter.location = .header) (explicit : isReserved parameter = false)
    (given : Entries) :
    ∃ first last, declaredSource operation given =
        first ++ (parameter.name, entry given (argumentOf parameter)) :: last ∧
      (Shadowed later parameter ↔
        ∃ header ∈ last, bears (Text.lowercased parameter.name) header = true) := by
  let headers (parameters : List Parameter) : Headers :=
    ((parameters.filter (!isReserved ·)).filter (·.location == .header)).map fun parameter =>
      (parameter.name, entry given (argumentOf parameter))
  refine ⟨headers before, headers later, ?_, ?_⟩
  · simp [declaredSource, parametersAt, explicitParameters, declared, atHeader, explicit, headers]
  · constructor
    · rintro ⟨other, member, location, same⟩
      refine ⟨_, List.mem_map.mpr ⟨other, ?_, rfl⟩, beq_iff_eq.mpr same⟩
      simp [member, location, isReserved_congr same, explicit]
    · rintro ⟨header, member, same⟩
      obtain ⟨other, held, rfl⟩ := List.mem_map.mp member
      obtain ⟨held, location⟩ := List.mem_filter.mp held
      exact ⟨other, (List.mem_filter.mp held).1, beq_iff_eq.mp location, beq_iff_eq.mp same⟩

/-- A header argument that a call supplies is found in the request under its declared name, with its
value, exactly where no parameter declared after it has the same header name; else nothing is found
there. -/
theorem header_of_supplied {operation : Operation} {info : Info} {servers : List Server}
    {versions : Versions} {plan : Plan}
    (planned : ofOperation operation info servers versions = .ok plan)
    {before later : List Parameter} {parameter : Parameter}
    (declared : operation.parameters = before ++ parameter :: later)
    (atHeader : parameter.location = .header) (explicit : isReserved parameter = false)
    {functions : List String} {parameters options value : Value} {arguments request : Entries}
    (given : optionalEntries parameters = .ok arguments)
    (supplied : field? arguments (argumentOf parameter) = some value) (set : value ≠ .null)
    (dispatched : evaluate functions plan parameters options = .ok request) :
    ∃ headers, field? request "headers" = some (.map headers) ∧
      (¬Shadowed later parameter → field? headers parameter.name = some value) ∧
      (Shadowed later parameter → field? headers parameter.name = none) := by
  obtain ⟨operationId, server, _, segments, -, -, rfl, distinct, -, -, rfl⟩ :=
    ofOperation_eq_ok_iff.mp planned
  obtain ⟨parts, assembles, rfl⟩ := evaluate_eq_ok_iff.mp dispatched
  -- There are parameters, so the arguments of the call are taken.
  have taken : parts.arguments = arguments := by
    have own := assembles.arguments
    rw [argumentsOf, if_pos, given] at own
    · exact (Except.ok.inj own).symm
    · rw [← Bool.not_eq_false, takesParameters_built_eq_false_iff, explicitParameters, declared]
      simp [explicit]
  obtain ⟨below, after, -, added, headers⟩ := headersOf_eq_ok_iff.mp assembles.headers
  rw [taken, boundHeaders_built distinct] at added
  obtain ⟨first, last, source, shadowed⟩ :=
    exists_declaredSource_eq declared atHeader explicit arguments
  have word : entry arguments (argumentOf parameter) = value := by rw [entry, supplied]; rfl
  have apart : ((boundSource operation info versions arguments).map (·.1)).Nodup :=
    nodup_boundSource distinct
  rw [boundSource, source, word] at added apart
  rw [← List.append_assoc] at added apart
  obtain ⟨alone, hidden⟩ := field?_of_foldlM_addHeader_append_cons apart added
  refine ⟨_, Parts.field?_headers parts _, fun unshadowed => ?_, fun shadow => ?_⟩
  · rw [headers]
    refine field?_filter_of_eq_some (alone fun same => unshadowed (shadowed.mpr same)) ?_
    rwa [← Bool.not_eq_false, isSet_eq_false_iff]
  · rw [headers, setHeaders, field?_eq_none_iff]
    intro entry member
    exact field?_eq_none_iff.mp (hidden (shadowed.mp shadow)) entry (List.mem_filter.mp member).1

/-- An operation with two arguments whose header names differ in case only. -/
def limitsOperation : Operation where
  path := "/limits"
  method := .get
  operationId := some "getLimits"
  summary := none
  description := none
  parameters := [⟨"X-RateLimit", .header, false, false, none, []⟩,
    ⟨"X-Ratelimit", .header, false, false, none, []⟩]
  body := none

def limitsInfo : Info := ⟨"Limits", "1", none⟩

def limitsServers : List Server := [⟨"http://api.test/v1", none⟩]

def limitsVersions : Versions := ⟨none, none⟩

def limitsPlan : Plan where
  operationId := "getLimits"
  functionName := "get_limits"
  arguments := ["x_rate_limit", "x_ratelimit"]
  acceptsBody := false
  request := {
    method := .get
    baseUrl := "http://api.test/v1"
    segments := [.literal "limits"]
    headers := [⟨"X-API-Version", .constant "1"⟩, ⟨"X-RateLimit", .argument "x_rate_limit"⟩,
      ⟨"X-Ratelimit", .argument "x_ratelimit"⟩]
    query := []
    carriesBody := false
    bodyField := .json
    contentType := none
    required := [] }
  notes := ⟨none, none, [⟨"x_rate_limit", "X-RateLimit", .header, "", false, none⟩,
    ⟨"x_ratelimit", "X-Ratelimit", .header, "", false, none⟩], none⟩

theorem ofOperation_limitsOperation :
    ofOperation limitsOperation limitsInfo limitsServers limitsVersions = .ok limitsPlan := rfl

def limitsRequest (headers : Entries) : Entries :=
  [(.str "base_url", .str "http://api.test/v1"), (.str "method", .str "GET"),
    (.str "url", .str "limits"), (.str "headers", .map headers), (.str "params", .map []),
    (.str "json", .null)]

/-- The later of the two arguments is sent, also in place of a header of the caller. -/
theorem header_of_supplied_limitsPlan :
    ∃ request headers,
      evaluate [] limitsPlan
          (.map [(.str "x_rate_limit", .str "5"), (.str "x_ratelimit", .str "6")])
          (.map [(.str "headers", .map [(.str "x-RATELIMIT", .str "7")])]) = .ok request ∧
        field? request "headers" = some (.map headers) ∧
        field? headers "X-Ratelimit" = some (.str "6") := by
  have dispatched : evaluate [] limitsPlan
      (.map [(.str "x_rate_limit", .str "5"), (.str "x_ratelimit", .str "6")])
      (.map [(.str "headers", .map [(.str "x-RATELIMIT", .str "7")])]) =
        .ok (limitsRequest [(.str "X-API-Version", .str "1"), (.str "X-Ratelimit", .str "6")]) := by
    rfl
  have declared : limitsOperation.parameters = [⟨"X-RateLimit", .header, false, false, none, []⟩] ++
      ⟨"X-Ratelimit", .header, false, false, none, []⟩ :: [] := rfl
  obtain ⟨headers, field, alone, -⟩ :=
    header_of_supplied ofOperation_limitsOperation declared rfl rfl rfl
      (show field? _ "x_ratelimit" = some (.str "6") from rfl) nofun dispatched
  exact ⟨_, headers, dispatched, field, alone fun shadow => by simp [Shadowed] at shadow⟩

/-- The only argument that a call supplies is lost to one that is not set. -/
theorem unset_spelling_drops_header :
    ofOperation limitsOperation limitsInfo limitsServers limitsVersions = .ok limitsPlan ∧
      limitsOperation.parameters.map argumentOf = ["x_rate_limit", "x_ratelimit"] ∧
      evaluate [] limitsPlan (.map [(.str "x_rate_limit", .str "5")]) .null =
        .ok (limitsRequest [(.str "X-API-Version", .str "1")]) :=
  ⟨ofOperation_limitsOperation, rfl, rfl⟩

end ApiCompiler.Call
