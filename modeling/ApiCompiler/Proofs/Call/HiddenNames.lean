import ApiCompiler.Call.Request
import ApiCompiler.Naming
import ApiCompiler.Proofs.Outcome

/-!
# Names that functions hide

The functions of a module stand beside its helpers, and one that has the name of a helper or of
something built in hides it from all of them. Of the names that are looked up when a function is
called, all but `set` and `frozenset` are kept from functions. While neither of these two is hidden,
the other functions of a module do not matter to a call.
-/

namespace ApiCompiler.Naming

/-- The lower-case names, of helpers and of what is built in, that a module looks up when one of its
functions is called. -/
def lookedUpNames : List String := [
  "functools", "httpx", "dispatch", "send_request", "clean_query", "clean_headers", "merge_headers",
  "ordered_compare", "sort_ordered", "require_parameter", "dict", "isinstance", "list", "tuple",
  "set", "frozenset", "sorted", "str", "super"]

/-- The names that are looked up and yet not kept from functions. -/
def unguardedNames : List String := ["set", "frozenset"]

theorem mem_unguardedNames_iff {name : String} :
    name ∈ unguardedNames ↔ name ∈ lookedUpNames ∧ name ∉ moduleNames := by
  have left : unguardedNames = lookedUpNames.filter (!moduleNames.contains ·) := by decide
  rw [left, List.mem_filter, List.contains_eq_mem, Bool.not_eq_true', decide_eq_false_iff_not]

/-- No name that is looked up ends with an underscore. -/
theorem append_underscore_not_mem_lookedUpNames (name : String) : name ++ "_" ∉ lookedUpNames := by
  have ends : ∀ other ∈ lookedUpNames, other.toList.getLast? ≠ some '_' := by decide
  intro member
  refine ends _ member ?_
  rw [String.toList_append]
  exact List.getLast?_concat

/-- No function has a name that is kept from functions. -/
theorem functionName_not_mem_moduleNames (operationId : String) :
    functionName operationId ∉ moduleNames := by
  have lookedUp : moduleNames ⊆ lookedUpNames := by decide
  unfold functionName
  dsimp only
  split
  · exact fun member => append_underscore_not_mem_lookedUpNames _ (lookedUp member)
  · next unguarded => exact fun member => unguarded (List.contains_iff_mem.mpr member)

theorem functionName_mem_unguardedNames_iff {operationId : String} :
    functionName operationId ∈ unguardedNames ↔ argumentName operationId ∈ unguardedNames := by
  unfold functionName
  dsimp only
  split
  · next guarded =>
    have suffixed : argumentName operationId ++ "_" ∉ unguardedNames := fun member =>
      append_underscore_not_mem_lookedUpNames _ (mem_unguardedNames_iff.mp member).1
    have plain : argumentName operationId ∉ unguardedNames := fun member =>
      (mem_unguardedNames_iff.mp member).2 (List.contains_iff_mem.mp guarded)
    exact iff_of_false suffixed plain
  · exact Iff.rfl

theorem functionName_mem_lookedUpNames_iff {operationId : String} :
    functionName operationId ∈ lookedUpNames ↔ functionName operationId ∈ unguardedNames := by
  rw [mem_unguardedNames_iff, and_iff_left (functionName_not_mem_moduleNames operationId)]

end ApiCompiler.Naming

namespace ApiCompiler.Call

open Naming

section Unhidden

variable {functions : List String} (unhidden : ∀ name ∈ unguardedNames, name ∉ functions)

include unhidden

theorem sortOrderedAmong_eq_sortOrdered (value : Value) :
    sortOrderedAmong functions value = sortOrdered value := by
  have absent (name : String) (member : name ∈ unguardedNames) :
      functions.contains name = false := by
    rw [List.contains_eq_mem, decide_eq_false_iff_not]
    exact unhidden name member
  unfold sortOrderedAmong
  rw [absent "set" (by decide), absent "frozenset" (by decide)]
  cases value <;> rfl

theorem bindQuery_eq (arguments query : Entries) (binding : QueryBinding) :
    bindQuery functions arguments query binding = bindQuery [] arguments query binding := by
  have alone : ∀ value, sortOrderedAmong [] value = sortOrdered value :=
    sortOrderedAmong_eq_sortOrdered fun _ _ => List.not_mem_nil
  simp only [bindQuery, queryValue, sortOrderedAmong_eq_sortOrdered unhidden, alone]

/-- Other functions do not matter to a call. -/
theorem evaluate_eq_evaluate_nil (plan : Plan) (parameters options : Value) :
    evaluate functions plan parameters options = evaluate [] plan parameters options := by
  have queries (request : RequestPlan) (arguments : Entries) (callers : Value) :
      queryOf functions request arguments callers = queryOf [] request arguments callers := by
    have each : bindQuery functions arguments = bindQuery [] arguments := by
      funext query binding
      exact bindQuery_eq unhidden arguments query binding
    rw [queryOf, queryOf, each]
  simp only [evaluate, requestOf, queries]

end Unhidden

/-- Values of ordered arguments are told apart in a module exactly where neither of the two names is
hidden. -/
theorem forall_sortOrderedAmong_eq_iff {functions : List String} :
    (∀ value, sortOrderedAmong functions value = sortOrdered value) ↔
      ∀ name ∈ unguardedNames, name ∉ functions := by
  constructor
  · intro same
    -- A text is neither a list nor a tuple, so both names are looked up for it.
    have unhidden : "set" ∉ functions ∧ "frozenset" ∉ functions := by
      simpa [sortOrderedAmong, sortOrdered] using same (.str "")
    simpa [unguardedNames] using unhidden
  · exact sortOrderedAmong_eq_sortOrdered

/-- A function hides a name that its module looks up exactly where its operation's identifier gives
`set` or `frozenset`. Functions that hide no such name leave every call as it is alone, and only
they let all values of ordered arguments be what they are alone. -/
theorem hides_iff_set_or_frozenset (operationId : String) (others : List String) :
    (functionName operationId ∈ lookedUpNames ↔
      argumentName operationId = "set" ∨ argumentName operationId = "frozenset") ∧
    ((∀ other ∈ others, functionName other ∉ lookedUpNames) ↔
      ∀ value, sortOrderedAmong (others.map functionName) value = sortOrdered value) ∧
    ((∀ other ∈ others, functionName other ∉ lookedUpNames) → ∀ plan parameters options,
      evaluate (others.map functionName) plan parameters options =
        evaluate [] plan parameters options) := by
  have unhidden : (∀ other ∈ others, functionName other ∉ lookedUpNames) ↔
      ∀ name ∈ unguardedNames, name ∉ others.map functionName := by
    simp only [functionName_mem_lookedUpNames_iff, List.mem_map, not_exists, not_and]
    constructor
    · rintro apart name unguarded other member rfl
      exact apart other member unguarded
    · intro apart other member unguarded
      exact apart _ unguarded other member rfl
  refine ⟨?_, ?_, fun apart => evaluate_eq_evaluate_nil (unhidden.mp apart)⟩
  · rw [functionName_mem_lookedUpNames_iff, functionName_mem_unguardedNames_iff]
    simp [unguardedNames]
  · rw [forall_sortOrderedAmong_eq_iff, unhidden]

/-- An operation with one ordered query argument. -/
def listPlan : Plan where
  operationId := "getItems"
  functionName := "get_items"
  arguments := ["tags"]
  acceptsBody := false
  request := {
    method := .get
    baseUrl := "http://api.test"
    segments := [.literal "items"]
    headers := [⟨"X-API-Version", .constant "1"⟩]
    query := [⟨"tags", "tags", true⟩]
    carriesBody := false
    bodyField := .json
    contentType := none
    required := [] }
  notes := ⟨none, none, [⟨"tags", "tags", .query, "array", false, none⟩], none⟩

/-- Beside an operation that is called like a helper, a call goes as it does alone. -/
theorem hides_iff_set_or_frozenset_getItems :
    functionName "list" ∉ lookedUpNames ∧
      evaluate (["list", "getItems"].map functionName) listPlan
        (.map [(.str "tags", .str "new")]) .null =
        evaluate [] listPlan (.map [(.str "tags", .str "new")]) .null := by
  have apart : ∀ other ∈ ["list", "getItems"], functionName other ∉ lookedUpNames := by
    decide +kernel
  exact ⟨apart "list" List.mem_cons_self,
    (hides_iff_set_or_frozenset "list" ["list", "getItems"]).2.2 apart _ _ _⟩

/-- An operation may be called `set`, and then another one is refused a value that it takes
alone. -/
theorem set_hides_kind :
    functionName "set" = "set" ∧ functionName "set" ∈ lookedUpNames ∧
      evaluate (["set", "getItems"].map functionName) listPlan
        (.map [(.str "tags", .str "new")]) .null =
        .error (.misuse .wrongKind) ∧
      (evaluate [] listPlan (.map [(.str "tags", .str "new")]) .null).isOk = true := by
  exact ⟨by decide +kernel, by decide +kernel, by rfl, by rfl⟩

end ApiCompiler.Call
