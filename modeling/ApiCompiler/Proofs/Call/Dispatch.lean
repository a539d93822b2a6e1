import ApiCompiler.Call.Request
import ApiCompiler.Proofs.Outcome
import ApiCompiler.Proofs.Value.Entries

/-!
# Dispatched requests

What a dispatched request is put together from, and which of its fields the options leave alone. A
call dispatches a request exactly where each of its parts can be made.
-/

namespace ApiCompiler.Call

open Outcome

/-- What a request is put together from. -/
structure Parts where
  /-- The arguments of the call. -/
  arguments : Entries
  /-- The options, which replace fields of the request. -/
  options : Entries
  headers : Entries
  query : Entries
  url : String

namespace Parts

/-- The request that is put together. -/
def request (parts : Parts) (plan : RequestPlan) : Entries :=
  update [
    (.str "base_url", .str plan.baseUrl), (.str "method", .str plan.method.verb),
    (.str "url", .str parts.url), (.str "headers", .map parts.headers),
    (.str "params", .map parts.query), bodyEntry plan parts.arguments]
    (without (without parts.options "headers") "params")

/-- The options that have a key of their own in the request replace nothing else. -/
theorem forall_mem_replacing_ne {parts : Parts} {name : String}
    (kept : ∀ option ∈ parts.options, option.1 ≠ .str name) :
    ∀ option ∈ without (without parts.options "headers") "params", option.1 ≠ .str name :=
  fun option member =>
    kept option (forall_mem_without option (forall_mem_without option member).1).1

/-- The headers of a request are never replaced. -/
theorem field?_headers (parts : Parts) (plan : RequestPlan) :
    Value.field? (parts.request plan) "headers" = some (.map parts.headers) := by
  have others : ∀ option ∈ without (without parts.options "headers") "params",
      option.1 ≠ .str "headers" :=
    fun option member => (forall_mem_without option (forall_mem_without option member).1).2
  rw [request, field?_update_of_forall_ne others]
  rfl

theorem field?_url {parts : Parts} (kept : ∀ option ∈ parts.options, option.1 ≠ .str "url")
    (plan : RequestPlan) : Value.field? (parts.request plan) "url" = some (.str parts.url) := by
  rw [request, field?_update_of_forall_ne (forall_mem_replacing_ne kept)]
  rfl

theorem field?_base_url {parts : Parts}
    (kept : ∀ option ∈ parts.options, option.1 ≠ .str "base_url") (plan : RequestPlan) :
    Value.field? (parts.request plan) "base_url" = some (.str plan.baseUrl) := by
  rw [request, field?_update_of_forall_ne (forall_mem_replacing_ne kept)]
  rfl

end Parts

/-- The parts that a call gives its request. -/
structure Assembles (functions : List String) (plan : Plan) (parameters options : Value)
    (parts : Parts) : Prop where
  arguments : argumentsOf plan parameters = .ok parts.arguments
  checked : checkRequired parts.arguments plan.request.required = .ok ()
  options : optionalEntries options = .ok parts.options
  headers : headersOf plan.request parts.arguments (entry parts.options "headers") =
    .ok parts.headers
  query : queryOf functions plan.request parts.arguments (entry parts.options "params") =
    .ok parts.query
  url : urlOf plan.request parts.arguments = .ok parts.url

/-- A call dispatches a request exactly where each of its parts can be made. -/
theorem evaluate_eq_ok_iff {functions : List String} {plan : Plan} {parameters options : Value}
    {request : Entries} :
    evaluate functions plan parameters options = .ok request ↔
      ∃ parts, Assembles functions plan parameters options parts ∧
        request = parts.request plan.request := by
  simp only [evaluate, requestOf, lift, bind_eq_ok, mapError_eq_ok, pure, Except.pure,
    Except.ok.injEq]
  constructor
  · rintro ⟨arguments, taken, _, checked, replacing, replaced, _,
      ⟨headers, merged, query, bound, url, joined, rfl⟩, rfl⟩
    exact ⟨⟨arguments, replacing, headers, query, url⟩,
      ⟨taken, checked, replaced, merged, bound, joined⟩, rfl⟩
  · rintro ⟨parts, assembles, rfl⟩
    exact ⟨parts.arguments, assembles.arguments, (), assembles.checked, parts.options,
      assembles.options, _, ⟨parts.headers, assembles.headers, parts.query, assembles.query,
        parts.url, assembles.url, rfl⟩, rfl⟩

end ApiCompiler.Call
