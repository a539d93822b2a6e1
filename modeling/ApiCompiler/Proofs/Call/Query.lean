import ApiCompiler.Proofs.Call.Dispatch
import ApiCompiler.Proofs.Call.Layers
import ApiCompiler.Proofs.Call.Required
import ApiCompiler.Proofs.Plan.Places

/-!
# Queries of requests

What the query of a dispatched request holds: the caller's entries in their order, those under a
declared name with the declared value in place of the caller's, then what else is declared, and of
all this only what is set and no empty list or tuple.
-/

namespace ApiCompiler.Call

open Outcome Plan Value

/-- No two keys of a mapping are the same. -/
def DistinctKeys (entries : Entries) : Prop :=
  entries.Pairwise fun first second => first.1.sameKey second.1 = false

/-- Entries with declared values in place of their own, and the remaining declared entries
behind. -/
def overlay (callers : Entries) (declared : List (String × Value)) : Entries :=
  (callers.map fun entry => (entry.1, (lookup? (asEntries declared) entry.1).getD entry.2)) ++
    asEntries (declared.filter fun entry => (field? callers entry.1).isNone)

theorem lookup?_asEntries_cons_self (name : String) (value : Value)
    (declared : List (String × Value)) :
    lookup? (asEntries ((name, value) :: declared)) (.str name) = some value :=
  field?_cons_self name value _

theorem lookup?_asEntries_cons_of_ne {name : String} {key : Value} (differs : key ≠ .str name)
    (value : Value) (declared : List (String × Value)) :
    lookup? (asEntries ((name, value) :: declared)) key = lookup? (asEntries declared) key := by
  have other : sameKey (.str name) key = false := by
    rw [← Bool.not_eq_true, sameKey_str_left]
    exact differs
  simp [lookup?, asEntries, other]

/-- Leaving a declared name out does not touch what is found under other keys. -/
theorem lookup?_asEntries_filter_of_ne {key other : Value} (differs : ∀ name, other = .str name →
    key ≠ .str name) (declared : List (String × Value)) :
    lookup? (asEntries (declared.filter fun entry => !other.sameKey (.str entry.1))) key =
      lookup? (asEntries declared) key := by
  induction declared with
  | nil => rfl
  | cons entry declared induction =>
      obtain ⟨name, value⟩ := entry
      by_cases dropped : other = .str name
      · have drops : other.sameKey (.str name) = true := sameKey_str_right.mpr dropped
        rw [List.filter_cons_of_neg (by simp [drops]), induction,
          lookup?_asEntries_cons_of_ne (differs name dropped)]
      · have kept : other.sameKey (.str name) = false := sameKey_str_of_ne dropped
        rw [List.filter_cons_of_pos (by simp [kept])]
        by_cases own : key = .str name
        · rw [own, lookup?_asEntries_cons_self, lookup?_asEntries_cons_self]
        · rw [lookup?_asEntries_cons_of_ne own, lookup?_asEntries_cons_of_ne own, induction]

theorem lookup?_asEntries_eq_none {key : Value} {declared : List (String × Value)}
    (absent : ∀ entry ∈ declared, key ≠ .str entry.1) :
      lookup? (asEntries declared) key = none := by
  induction declared with
  | nil => rfl
  | cons entry declared induction =>
      rw [lookup?_asEntries_cons_of_ne (absent entry List.mem_cons_self)]
      exact induction fun other member => absent other (List.mem_cons_of_mem _ member)

/-- The value that is found under a key is the one that is declared for it. -/
theorem lookup?_asEntries_eq_some_iff {declared : List (String × Value)}
    (distinct : (declared.map (·.1)).Nodup) {key value : Value} :
    lookup? (asEntries declared) key = some value ↔
      ∃ name, key = .str name ∧ (name, value) ∈ declared := by
  induction declared with
  | nil => simp [asEntries, lookup?]
  | cons entry declared induction =>
      obtain ⟨name, held⟩ := entry
      rw [List.map_cons, List.nodup_cons] at distinct
      by_cases own : key = .str name
      · subst own
        have alone : (name, value) ∉ declared := fun member =>
          distinct.1 (List.mem_map.mpr ⟨_, member, rfl⟩)
        simp [lookup?_asEntries_cons_self, alone, eq_comm]
      · rw [lookup?_asEntries_cons_of_ne own, induction distinct.2]
        refine exists_congr fun other => and_congr_right fun named => ?_
        have differs : other ≠ name := fun same => own (same ▸ named)
        simp [differs]

/-- What is declared for the first of some entries stays with it; the others get the rest. -/
theorem update_cons {declared : List (String × Value)} (distinct : (declared.map (·.1)).Nodup)
    (key value : Value) (entries : Entries) :
    update ((key, value) :: entries) (asEntries declared) =
      (key, (lookup? (asEntries declared) key).getD value) ::
        update entries (asEntries (declared.filter fun entry => !key.sameKey (.str entry.1))) := by
  induction declared generalizing value entries with
  | nil => rfl
  | cons entry declared induction =>
      obtain ⟨name, new⟩ := entry
      rw [List.map_cons, List.nodup_cons] at distinct
      change update (Value.insert ((key, value) :: entries) (.str name) new)
        (asEntries declared) = _
      by_cases own : key = .str name
      · have same : key.sameKey (.str name) = true := sameKey_str_right.mpr own
        have others : lookup? (asEntries declared) key = none :=
          lookup?_asEntries_eq_none fun other member again =>
            distinct.1 (List.mem_map.mpr ⟨other, member, Value.str.inj (again.symm.trans own)⟩)
        rw [Value.insert, if_pos same, induction distinct.2, others,
          List.filter_cons_of_neg (by simp [same]), own, lookup?_asEntries_cons_self]
        rfl
      · have differs : key.sameKey (.str name) = false := sameKey_str_of_ne own
        rw [Value.insert, differs, if_neg Bool.false_ne_true, induction distinct.2,
          List.filter_cons_of_pos (by simp [differs]), lookup?_asEntries_cons_of_ne own]
        rfl

/-- Setting declared entries one after another lays them over those that are there. -/
theorem update_eq_overlay {callers : Entries} {declared : List (String × Value)}
    (apart : DistinctKeys callers) (distinct : (declared.map (·.1)).Nodup) :
    update callers (asEntries declared) = overlay callers declared := by
  induction callers generalizing declared with
  | nil =>
      have fresh := @foldl_insert_of_distinct declared [] distinct (by simp)
      simpa [update, overlay, asEntries] using fresh
  | cons entry callers induction =>
      obtain ⟨key, value⟩ := entry
      obtain ⟨alone, apart⟩ := List.pairwise_cons.mp apart
      have kept : ((declared.filter fun entry => !key.sameKey (.str entry.1)).map (·.1)).Nodup :=
        List.Nodup.sublist (List.filter_sublist.map _) distinct
      rw [update_cons distinct, induction apart kept]
      simp only [overlay, List.map_cons, List.cons_append, List.filter_filter]
      congr 2
      · refine List.map_congr_left fun entry member => ?_
        rw [lookup?_asEntries_filter_of_ne]
        rintro name rfl same
        have differs := alone entry member
        rw [sameKey_str_left.mpr same] at differs
        contradiction
      · congr 1
        refine List.filter_congr fun entry _ => ?_
        by_cases own : key = .str entry.1
        · rw [sameKey_str_right.mpr own, own, field?_cons_self, Bool.not_true, Bool.and_false]
          rfl
        · rw [sameKey_str_of_ne own, field?_cons_of_ne own, Bool.not_false, Bool.and_true]

/-- Under a declared name there is the declared value, under any other key that of the caller. -/
theorem mem_overlay {callers : Entries} {declared : List (String × Value)}
    (distinct : (declared.map (·.1)).Nodup) {key value : Value} :
    (key, value) ∈ overlay callers declared ↔
      (∃ name, key = .str name ∧ (name, value) ∈ declared) ∨
        (∀ name ∈ declared.map (·.1), key ≠ .str name) ∧ (key, value) ∈ callers := by
  rw [overlay, List.mem_append, List.mem_map]
  constructor
  · rintro (⟨entry, member, made⟩ | added)
    · obtain ⟨rfl, own⟩ := Prod.mk.inj made
      cases found : lookup? (asEntries declared) entry.1 with
      | none =>
          rw [found] at own
          obtain rfl := own
          refine Or.inr ⟨List.forall_mem_map.mpr fun other declares named => ?_, member⟩
          have known := (lookup?_asEntries_eq_some_iff distinct).mpr ⟨other.1, named, declares⟩
          rw [found] at known
          contradiction
      | some held =>
          rw [found] at own
          obtain rfl := own
          exact Or.inl ((lookup?_asEntries_eq_some_iff distinct).mp found)
    · obtain ⟨entry, kept, made⟩ := List.mem_map.mp added
      obtain ⟨rfl, rfl⟩ := Prod.mk.inj made
      exact Or.inl ⟨entry.1, rfl, (List.mem_filter.mp kept).1⟩
  · rintro (⟨name, rfl, declares⟩ | ⟨undeclared, member⟩)
    · cases found : field? callers name with
      | none =>
          have kept : (name, value) ∈ declared.filter fun entry =>
            (field? callers entry.1).isNone :=
            List.mem_filter.mpr ⟨declares, by rw [found]; rfl⟩
          exact Or.inr (List.mem_map.mpr ⟨_, kept, rfl⟩)
      | some old =>
          obtain ⟨entry, present, -⟩ := Option.map_eq_some_iff.mp found
          have same := List.find?_some present
          have named : entry.1 = .str name := sameKey_str_right.mp same
          refine Or.inl ⟨entry, List.mem_of_find?_eq_some present, ?_⟩
          rw [named, (lookup?_asEntries_eq_some_iff distinct).mpr ⟨name, rfl, declares⟩]
          rfl
    · refine Or.inl ⟨(key, value), member, ?_⟩
      rw [lookup?_asEntries_eq_none fun entry declares =>
        undeclared entry.1 (List.mem_map_of_mem declares)]
      rfl

/-- The value that a call gives a query parameter, in canonical order if the parameter is
ordered. -/
def Binds (given : Entries) (parameter : Parameter) (value : Value) : Prop :=
  if parameter.ordered then sortOrdered (entry given (argumentOf parameter)) = .ok value
  else entry given (argumentOf parameter) = value

/-- A function that hides no kind of value sorts as the library does. -/
theorem sortOrdered_of_sortOrderedAmong {functions : List String} {value sorted : Value}
    (done : sortOrderedAmong functions value = .ok sorted) : sortOrdered value = .ok sorted := by
  unfold sortOrderedAmong at done
  cases value <;>
    exact (ite_eq_iff.mp done).elim (fun hidden => absurd hidden.2 error_ne_ok) And.right

theorem Binds.unique {given : Entries} {parameter : Parameter} {first second : Value}
    (one : Binds given parameter first) (other : Binds given parameter second) :
      first = second := by
  unfold Binds at one other
  cases ordered : parameter.ordered with
  | true =>
      rw [ordered, if_pos rfl] at one other
      exact Except.ok.inj (one.symm.trans other)
  | false =>
      rw [ordered, if_neg Bool.false_ne_true] at one other
      exact one.symm.trans other

theorem binds_of_queryValue {functions : List String} {given : Entries} {parameter : Parameter}
    {value : Value}
    (done : queryValue functions given
      ⟨parameter.name, argumentOf parameter, parameter.ordered⟩ = .ok value) :
    Binds given parameter value := by
  unfold Binds
  unfold queryValue at done
  cases ordered : parameter.ordered with
  | true =>
      rw [ordered, if_pos rfl] at done
      exact sortOrdered_of_sortOrderedAmong done
  | false =>
      rw [ordered, if_neg Bool.false_ne_true] at done
      exact Except.ok.inj done

/-- The bindings of a query are set one after another. -/
theorem foldlM_bindQuery_eq_ok {functions : List String} {given : Entries}
    {bindings : List QueryBinding} {query bound : Entries}
    (done : bindings.foldlM (bindQuery functions given) query = .ok bound) :
    ∃ declared : List (String × Value),
      List.Forall₂ (fun binding entry => entry.1 = binding.key ∧
        queryValue functions given binding = .ok entry.2) bindings declared ∧
      bound = update query (asEntries declared) := by
  induction bindings generalizing query with
  | nil => exact ⟨[], .nil, (Except.ok.inj done).symm⟩
  | cons binding bindings induction =>
      rw [List.foldlM_cons, bind_eq_ok] at done
      obtain ⟨next, first, rest⟩ := done
      obtain ⟨value, own, set⟩ := bind_eq_ok.mp first
      obtain ⟨declared, each, rfl⟩ := induction rest
      obtain rfl := Except.ok.inj set
      exact ⟨(binding.key, value) :: declared, .cons ⟨rfl, own⟩ each, rfl⟩

/-- Names and values that a call gives some query parameters, in the order of their declaration. -/
def Declares (given : Entries) (parameters : List Parameter) (declared : List (String × Value)) :
    Prop :=
  List.Forall₂ (fun parameter entry => entry.1 = parameter.name ∧ Binds given parameter entry.2)
    parameters declared

theorem Declares.map_fst {given : Entries} {parameters : List Parameter}
    {declared : List (String × Value)} (declares : Declares given parameters declared) :
    declared.map (·.1) = parameters.map (·.name) := by
  induction declares with
  | nil => rfl
  | cons own _ induction => rw [List.map_cons, List.map_cons, own.1, induction]

theorem Declares.mem_iff {given : Entries} {parameters : List Parameter}
    {declared : List (String × Value)} (declares : Declares given parameters declared)
    {name : String}
    {value : Value} :
    (name, value) ∈ declared ↔
      ∃ parameter ∈ parameters, parameter.name = name ∧ Binds given parameter value := by
  induction declares with
  | nil => simp
  | @cons parameter entry parameters declared own _ induction =>
      obtain ⟨named, binds⟩ := own
      rw [List.mem_cons, induction, List.exists_mem_cons_iff]
      refine or_congr_left ⟨?_, ?_⟩
      · rintro rfl
        exact ⟨named.symm, binds⟩
      · rintro ⟨rfl, other⟩
        exact Prod.ext named.symm (other.unique binds)

/-- Query parameters with one name would be one argument. -/
theorem nodup_names_of_arguments {operation : Operation}
    (distinct : (argumentNames operation).Nodup)
    (location : Location) : ((parametersAt location operation).map (·.name)).Nodup := by
  have apart : ((parametersAt location operation).map argumentOf).Nodup :=
    List.Nodup.sublist (List.filter_sublist.map _) distinct
  refine List.Nodup.of_map Naming.argumentName ?_
  rw [List.map_map]
  exact apart

namespace Parts

/-- The query of a request is never replaced. -/
theorem field?_params (parts : Parts) (plan : RequestPlan) :
    field? (parts.request plan) "params" = some (.map parts.query) := by
  have others : ∀ option ∈ without (without parts.options "headers") "params",
      option.1 ≠ .str "params" :=
    fun option member => (forall_mem_without option member).2
  rw [request, field?_update_of_forall_ne others]
  rfl

end Parts

/-- What is given counts for nothing where there are no parameters. -/
theorem declares_taken {operation : Operation} {operationId : String} {info : Info}
    {server : Server} {versions : Versions} {segments : List Segment} {given : Entries}
    {location : Location} {declared : List (String × Value)}
    (declares : Declares
      (if (built operation operationId info server versions segments).takesParameters then given
        else []) (parametersAt location operation) declared) :
    Declares given (parametersAt location operation) declared := by
  cases takes : (built operation operationId info server versions segments).takesParameters with
  | true => rwa [takes, if_pos rfl] at declares
  | false =>
      obtain ⟨none, -⟩ := (takesParameters_built_eq_false_iff ..).mp takes
      have nothing : parametersAt location operation = [] := by simp [parametersAt, none]
      rw [nothing] at declares ⊢
      cases declares
      exact .nil

/-- The query of a dispatched request has the caller's keys in their order and then the remaining
declared names in the order of their declaration. Under a declared name stands the value of its
argument and nothing of the caller's, under any other key the caller's value, and both only where
they are set and no empty list or tuple. -/
theorem query_of_evaluate {operation : Operation} {info : Info} {servers : List Server}
    {versions : Versions} {plan : Plan}
    (planned : ofOperation operation info servers versions = .ok plan) {functions : List String}
    {parameters options : Value} {given replacing callers request : Entries}
    (arguments : OptionalMapping parameters given) (replaced : OptionalMapping options replacing)
    (calling : OptionalMapping (entry replacing "params") callers) (apart : DistinctKeys callers)
    (dispatched : evaluate functions plan parameters options = .ok request) :
    ∃ declared query,
      Declares given (parametersAt .query operation) declared ∧
      field? request "params" = some (.map query) ∧
      query = sentQuery (overlay callers declared) ∧
      ∀ key value, (key, value) ∈ query ↔ isSent value = true ∧
        ((∃ parameter ∈ parametersAt .query operation,
            key = .str parameter.name ∧ Binds given parameter value) ∨
          (∀ parameter ∈ parametersAt .query operation, key ≠ .str parameter.name) ∧
            (key, value) ∈ callers) := by
  obtain ⟨operationId, server, _, segments, -, -, rfl, distinct, -, -, rfl⟩ :=
    ofOperation_eq_ok_iff.mp planned
  obtain ⟨parts, assembles, rfl⟩ := evaluate_eq_ok_iff.mp dispatched
  have taken := Except.ok.inj ((argumentsOf_eq arguments).symm.trans assembles.arguments)
  have own := Except.ok.inj ((optionalEntries_eq replaced).symm.trans assembles.options)
  obtain ⟨below, read, rest⟩ := bind_eq_ok.mp assembles.query
  obtain ⟨bound, folded, sent⟩ := bind_eq_ok.mp rest
  rw [← own, orElse_eq calling] at read
  obtain rfl := Except.ok.inj read
  obtain ⟨declared, each, rfl⟩ := foldlM_bindQuery_eq_ok folded
  -- What is bound, binding by binding, is what is declared, parameter by parameter.
  have bindings : (built operation operationId info server versions segments).request.query =
      (parametersAt .query operation).map fun parameter =>
        ⟨parameter.name, argumentOf parameter, parameter.ordered⟩ :=
    queryBindings_withArguments (explicitParameters operation)
  rw [bindings, List.forall₂_map_left_iff, ← taken] at each
  have declares : Declares given (parametersAt .query operation) declared :=
    declares_taken (each.imp fun _ _ bound => ⟨bound.1, binds_of_queryValue bound.2⟩)
  have names := nodup_names_of_arguments distinct .query
  rw [← declares.map_fst] at names
  refine ⟨declared, parts.query, declares, Parts.field?_params parts _, ?_, fun key value => ?_⟩
  · rw [← update_eq_overlay apart names]
    exact (Except.ok.inj sent).symm
  · rw [← Except.ok.inj sent, update_eq_overlay apart names, sentQuery, List.mem_filter,
      mem_overlay names, and_comm]
    simp only [declares.mem_iff, declares.map_fst, List.forall_mem_map]
    refine and_congr_right fun _ => or_congr_left ⟨?_, ?_⟩
    · rintro ⟨name, named, parameter, member, rfl, binds⟩
      exact ⟨parameter, member, named, binds⟩
    · rintro ⟨parameter, member, named, binds⟩
      exact ⟨parameter.name, named, parameter, member, rfl, binds⟩

def taggedArguments : Entries :=
  [(.str "user_id", .int 7), (.str "tags", .str "new")]

/-- Query entries of a caller, one of them under a declared name and one that is not set. -/
def pageEntries : Entries :=
  [(.str "tags", .str "old"), (.str "draft", .null), (.str "page", .int 2)]

def pageOptions : Entries := [(.str "params", .map pageEntries)]

theorem exists_tagged_request :
    ∃ plan, ofOperation ordersOperation shopInfo shopServers shopVersions = .ok plan ∧
      ∃ request, evaluate [] plan (.map taggedArguments) (.map pageOptions) = .ok request := by
  obtain ⟨plan, planned⟩ := exists_plan_ordersOperation
  have dispatched : (do
      let plan ← (ofOperation ordersOperation shopInfo shopServers shopVersions).toOption
      (evaluate [] plan (.map taggedArguments) (.map pageOptions)).toOption).isSome = true := by
    decide +kernel
  rw [planned] at dispatched
  exact ⟨plan, planned, exists_eq_ok_of_isSome dispatched⟩

/-- The declared tag is sent in place of the caller's, and of the caller's other entries only the
page. -/
theorem query_of_evaluate_ordersOperation :
    ∃ plan request query,
      ofOperation ordersOperation shopInfo shopServers shopVersions = .ok plan ∧
        evaluate [] plan (.map taggedArguments) (.map pageOptions) = .ok request ∧
        field? request "params" = some (.map query) ∧
        (.str "tags", .str "new") ∈ query ∧ (.str "page", .int 2) ∈ query ∧
        (.str "tags", .str "old") ∉ query ∧ (.str "draft", .null) ∉ query := by
  obtain ⟨plan, planned, request, dispatched⟩ := exists_tagged_request
  have calling : OptionalMapping (entry pageOptions "params") pageEntries := by
    rw [entry, pageOptions, field?_cons_self]
    exact .mapping _
  have apart : DistinctKeys pageEntries := by
    simp [DistinctKeys, pageEntries, sameKey]
  obtain ⟨-, query, -, field, -, entries⟩ :=
    query_of_evaluate planned (.mapping _) (.mapping _) calling apart dispatched
  have one : parametersAt .query ordersOperation =
      [⟨"tags", .query, false, true, none, ["array"]⟩] := by decide
  have named : argumentOf ⟨"tags", .query, false, true, none, ["array"]⟩ = "tags" := by decide
  have given : entry taggedArguments "tags" = .str "new" := rfl
  simp only [one, List.exists_mem_cons_iff, List.not_mem_nil, false_and, exists_false, or_false,
    List.forall_mem_singleton, Binds, if_true, named, given, sortOrdered] at entries
  refine ⟨plan, request, query, planned, dispatched, field, ?_, ?_, ?_, ?_⟩ <;>
    simp [entries, isSent, pageEntries]

end ApiCompiler.Call
