import ApiCompiler.Plan.Operation
import ApiCompiler.Proofs.Call.Dispatch
import ApiCompiler.Proofs.Wire.Path
import ApiCompiler.Wire.Message

/-!
# Servers that requests go to

The address of a request is read below the base address of its plan, so that a request whose address
is absolute goes where that address leads. All others go to the server of the base address; without
dots their paths start with the path of the base.
-/

namespace ApiCompiler.Wire

open Call (Entries entry)
open Outcome

/-- How the address of a message is found. -/
theorem url_of_ofRequest {request : Entries} {message : Message}
    (sent : Message.ofRequest request = .ok message) :
    ∃ base start address below query,
      addressOf ((Value.field? request "base_url").getD (.str "")) = .ok base ∧
        base.asBase = .ok start ∧ addressOf (entry request "url") = .ok address ∧
        start.below address = .ok below ∧ withFields below query = .ok message.url := by
  unfold Message.ofRequest at sent
  obtain ⟨base, based, sent⟩ := bind_eq_ok.mp sent
  obtain ⟨start, started, sent⟩ := bind_eq_ok.mp sent
  obtain ⟨_, -, sent⟩ := bind_eq_ok.mp sent
  obtain ⟨address, addressed, sent⟩ := bind_eq_ok.mp sent
  obtain ⟨below, joined, sent⟩ := bind_eq_ok.mp sent
  obtain ⟨headers, -, sent⟩ := bind_eq_ok.mp sent
  obtain ⟨cookies, -, sent⟩ := bind_eq_ok.mp sent
  obtain ⟨query, -, sent⟩ := bind_eq_ok.mp sent
  obtain ⟨limited, -, sent⟩ := bind_eq_ok.mp sent
  obtain ⟨method, -, sent⟩ := bind_eq_ok.mp (eq_ok_of_guarded sent)
  obtain ⟨url, written, sent⟩ := bind_eq_ok.mp sent
  -- What is left looks at the address and leaves it as it is.
  obtain ⟨_, -, sent⟩ := bind_eq_ok.mp (eq_ok_of_guarded sent)
  obtain ⟨payload, -, sent⟩ := bind_eq_ok.mp sent
  obtain ⟨_, -, sent⟩ := bind_eq_ok.mp sent
  obtain ⟨credentials, -, sent⟩ := bind_eq_ok.mp sent
  have kept : url = message.url := by
    dsimp only at sent
    split at sent
    · contradiction
    · rw [← Except.ok.inj sent]
  rw [entry, Call.field?_without_of_ne (by decide), Call.field?_without_of_ne (by decide)]
    at addressed
  exact ⟨base, start, address, below, query, based, started, addressed, joined, kept ▸ written⟩

/-- Whatever query a request gives, an address with a scheme keeps its server and its path. -/
theorem Url.IsServed.of_withFields {url again : Url} {query : Query} (served : url.IsServed)
    (success : withFields url query = .ok again) :
    Url.SameServer again url ∧ again.path = url.path := by
  cases query with
  | keep =>
      obtain rfl := Except.ok.inj success
      exact ⟨.refl url, rfl⟩
  | drop => exact (served.of_withQuery success).2
  | replace fields => exact (served.of_withQuery success).2

/-- The base address and the address of a dispatched request are those of the plan, unless the
options name others. -/
theorem field?_url_of_evaluate {functions : List String} {plan : Plan} {parameters options : Value}
    {given request : Entries} (replaced : Call.optionalEntries options = .ok given)
    (kept : ∀ option ∈ given, option.1 ≠ .str "url" ∧ option.1 ≠ .str "base_url")
    (dispatched : Call.evaluate functions plan parameters options = .ok request) :
    ∃ arguments texts, Call.argumentsOf plan parameters = .ok arguments ∧
      plan.request.segments.mapM (Call.segmentText arguments) = .ok texts ∧
      Value.field? request "base_url" = some (.str plan.request.baseUrl) ∧
      Value.field? request "url" = some (.str (String.intercalate "/" texts)) := by
  obtain ⟨parts, assembles, rfl⟩ := Call.evaluate_eq_ok_iff.mp dispatched
  obtain rfl := Except.ok.inj (assembles.options.symm.trans replaced)
  obtain ⟨texts, cut, joined⟩ := bind_eq_ok.mp assembles.url
  refine ⟨parts.arguments, texts, assembles.arguments, cut, ?_, ?_⟩
  · exact Call.Parts.field?_base_url (fun option member => (kept option member).2) plan.request
  · rw [Except.ok.inj joined]
    exact Call.Parts.field?_url (fun option member => (kept option member).1) plan.request

/-- A request goes to the server of the base address, unless the texts of its path make an absolute
address, which it goes to then. With the server of the base its path starts with the path of the
base, unless there are dots among the pieces of its own. Plain texts, whatever else they hold, do
neither. -/
theorem server_and_path_of_sent {functions : List String} {plan : Plan} {parameters options : Value}
    {given request : Entries} {message : Message} {base : Url}
    (replaced : Call.optionalEntries options = .ok given)
    (kept : ∀ option ∈ given, option.1 ≠ .str "url" ∧ option.1 ≠ .str "base_url")
    (dispatched : Call.evaluate functions plan parameters options = .ok request)
    (sent : Message.ofRequest request = .ok message)
    (based : Url.ofText plan.request.baseUrl = .ok base) (absolute : base.isAbsolute = true) :
    ∃ arguments texts address, Call.argumentsOf plan parameters = .ok arguments ∧
      plan.request.segments.mapM (Call.segmentText arguments) = .ok texts ∧
      Url.ofText (String.intercalate "/" texts) = .ok address ∧
      (address.isAbsolute = true →
        Url.SameServer message.url address ∧ message.url.path = address.path) ∧
      (address.isAbsolute = false →
        Url.SameServer message.url base ∧
          (Url.Undotted address.path → base.path <+: message.url.path)) ∧
      ((∀ text ∈ texts, IsPlain text) →
        Url.SameServer message.url base ∧ base.path <+: message.url.path) := by
  obtain ⟨arguments, texts, taken, cut, baseField, urlField⟩ :=
    field?_url_of_evaluate replaced kept dispatched
  obtain ⟨first, start, address, below, query, read, started, addressed, joined, written⟩ :=
    url_of_ofRequest sent
  rw [baseField, Option.getD_some, addressOf, based] at read
  obtain rfl := Except.ok.inj read
  rw [entry, urlField, Option.getD_some, addressOf] at addressed
  have served : base.IsServed := Url.isServed_of_isAbsolute based absolute
  obtain ⟨servedStart, sameStart, isBase, pathStart⟩ := served.of_asBase started
  have relative (none : address.isAbsolute = false) : Url.SameServer message.url base ∧
      (Url.Undotted address.path → base.path <+: message.url.path) := by
    obtain ⟨servedBelow, sameBelow, pathBelow⟩ :=
      servedStart.of_below isBase none (Url.isPathSafe_of_ofText addressed) joined
    obtain ⟨same, path⟩ := servedBelow.of_withFields written
    refine ⟨same.trans (sameBelow.trans sameStart), fun undotted => ?_⟩
    rw [path]
    exact pathStart.trans (pathBelow undotted)
  refine ⟨arguments, texts, address, taken, cut, addressed, fun whole => ?_,
    relative, fun plain => ?_⟩
  · rw [Url.below, if_pos whole] at joined
    obtain rfl := Except.ok.inj joined
    exact (Url.isServed_of_isAbsolute addressed whole).of_withFields written
  · obtain ⟨none, undotted⟩ := undotted_of_isPlain plain addressed
    obtain ⟨same, path⟩ := relative none
    exact ⟨same, path undotted⟩

/-- The address that a call without options is sent to. -/
def sentTo? (plan : Plan) (parameters : Value) : Option Url := do
  let request ← (Call.evaluate [] plan parameters .null).toOption
  let message ← (Message.ofRequest request).toOption
  return message.url

theorem exists_sent_of_sentTo? {plan : Plan} {parameters : Value} {url : Url}
    (sent : sentTo? plan parameters = some url) :
    ∃ request message, Call.evaluate [] plan parameters .null = .ok request ∧
      Message.ofRequest request = .ok message ∧ message.url = url := by
  unfold sentTo? at sent
  obtain ⟨request, dispatched, later⟩ := Option.bind_eq_some_iff.mp sent
  obtain ⟨message, received, same⟩ := Option.bind_eq_some_iff.mp later
  exact ⟨request, message, toOption_eq_some.mp dispatched, toOption_eq_some.mp received,
    Option.some.inj same⟩

/-- An operation whose whole path is one argument. -/
def targetOperation : Operation where
  path := "/{target}"
  method := .get
  operationId := some "getTarget"
  summary := none
  description := none
  parameters := [⟨"target", .path, true, false, none, []⟩]
  body := none

def targetInfo : Info := ⟨"Targets", "1", none⟩

def targetServers : List Server := [⟨"http://api.test/v1", none⟩]

def targetVersions : Versions := ⟨none, none⟩

def targetPlan : Plan where
  operationId := "getTarget"
  functionName := "get_target"
  arguments := ["target"]
  acceptsBody := false
  request := {
    method := .get
    baseUrl := "http://api.test/v1"
    segments := [.parameter "target" "target"]
    headers := [⟨"X-API-Version", .constant "1"⟩]
    query := []
    carriesBody := false
    bodyField := .json
    contentType := none
    required := ["target"] }
  notes := ⟨none, none, [⟨"target", "target", .path, "", true, none⟩], none⟩

theorem ofOperation_targetOperation :
    Plan.ofOperation targetOperation targetInfo targetServers targetVersions = .ok targetPlan := rfl

def targetArguments (target : String) : Value :=
  .map [(.str "target", .str target)]

/-- The base address of the operation. -/
def targetBase : Url := ⟨"http".toList, [], "api.test".toList, none, "/v1".toList, none, none⟩

theorem ofText_targetBase : Url.ofText "http://api.test/v1" = .ok targetBase := by
  decide +kernel

/-- A target that could end a user stays in the path. -/
theorem server_and_path_of_sent_targetPlan :
    ∃ request message,
      Call.evaluate [] targetPlan (targetArguments "evil.test@x y") .null = .ok request ∧
        Message.ofRequest request = .ok message ∧ Url.SameServer message.url targetBase ∧
        targetBase.path <+: message.url.path := by
  have received : sentTo? targetPlan (targetArguments "evil.test@x y") =
      some { targetBase with path := "/v1/evil.test@x%20y".toList } := by
    decide +kernel
  obtain ⟨request, message, dispatched, sent, -⟩ := exists_sent_of_sentTo? received
  obtain ⟨arguments, texts, address, taken, cut, -, -, -, plain⟩ :=
    server_and_path_of_sent rfl (by simp) dispatched sent ofText_targetBase (by decide)
  refine ⟨request, message, dispatched, sent, plain ?_⟩
  obtain rfl := Except.ok.inj (taken.symm.trans (show Call.argumentsOf targetPlan
    (targetArguments "evil.test@x y") = .ok [(.str "target", .str "evil.test@x y")] from rfl))
  obtain rfl := Except.ok.inj (cut.symm.trans (show targetPlan.request.segments.mapM
    (Call.segmentText [(.str "target", .str "evil.test@x y")]) = .ok ["evil.test@x y"] from rfl))
  exact List.forall_mem_singleton.mpr ⟨by simp [Url.endings], by decide⟩

/-- A target that is an absolute address is where the request goes. -/
theorem absolute_target_leaves_base :
    Plan.ofOperation targetOperation targetInfo targetServers targetVersions = .ok targetPlan ∧
      Url.ofText targetPlan.request.baseUrl = .ok targetBase ∧
      ∃ request message,
        Call.evaluate [] targetPlan (targetArguments "http://evil.test/x") .null = .ok request ∧
          Message.ofRequest request = .ok message ∧
          message.url.write = "http://evil.test/x" ∧ ¬Url.SameServer message.url targetBase := by
  have received : sentTo? targetPlan (targetArguments "http://evil.test/x") =
      some { targetBase with host := "evil.test".toList, path := "/x".toList } := by
    decide +kernel
  obtain ⟨request, message, dispatched, sent, url⟩ := exists_sent_of_sentTo? received
  refine ⟨ofOperation_targetOperation, ofText_targetBase, request, message, dispatched, sent, ?_,
    fun same => ?_⟩
  · rw [url]
    rfl
  · have host := same.host
    rw [url] at host
    exact absurd host (by decide)

end ApiCompiler.Wire
