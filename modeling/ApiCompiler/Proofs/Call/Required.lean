import ApiCompiler.Call.Request
import ApiCompiler.Proofs.Plan.Operation
import ApiCompiler.Proofs.Value.Entries

/-!
# Required arguments

A call fails for a missing argument exactly where a required one is absent or nothing. It names the
first such argument in the order of declaration, and whatever else is wrong with the call, nothing
is dispatched then.
-/

namespace ApiCompiler.Call

open Outcome Plan

theorem isSet_eq_false_iff {value : Value} : isSet value = false ↔ value = .null := by
  cases value <;> simp [isSet]

theorem entry_eq_null_iff {arguments : Entries} {name : String} :
    entry arguments name = .null ↔
      Value.field? arguments name = none ∨ Value.field? arguments name = some .null := by
  unfold entry
  cases Value.field? arguments name <;> simp

theorem isSet_entry_eq_true_iff {arguments : Entries} {name : String} :
    isSet (entry arguments name) = true ↔
      ∃ value, Value.field? arguments name = some value ∧ value ≠ .null := by
  rw [← Bool.not_eq_false, isSet_eq_false_iff, entry_eq_null_iff]
  cases Value.field? arguments name <;> simp

/-- A check gives the argument unless it is absent or nothing. -/
theorem requireArgument_map (arguments : Entries) (name : String) :
    requireArgument (.map arguments) (.str name) =
      if isSet (entry arguments name) then .ok (entry arguments name)
      else .error (.missing (.str name)) := by
  have shown : missing (.str name) = .missing (.str name) := by simp [missing, Value.isShowable]
  cases found : Value.lookup? arguments (.str name) with
  | none => simp [requireArgument, Value.isKey, entry, Value.field?, found, shown, isSet]
  | some value =>
      cases value <;>
        simp [requireArgument, Value.isKey, entry, Value.field?, found, shown, isSet]

/-- The first argument that fails its check is the one that is reported. -/
theorem checkRequired_eq (arguments : Entries) (required : List String) :
    checkRequired arguments required =
      match required.find? (fun name => !isSet (entry arguments name)) with
      | none => .ok ()
      | some name => .error (.missing (.str name)) := by
  induction required with
  | nil => rfl
  | cons name required induction =>
      rw [checkRequired, requireArgument_map]
      cases set : isSet (entry arguments name) with
      | true => simpa [set, bind, Except.bind] using induction
      | false => simp [set, bind, Except.bind]

theorem checkRequired_eq_ok_iff {arguments : Entries} {required : List String} :
    checkRequired arguments required = .ok () ↔
      ∀ name ∈ required, ∃ value, Value.field? arguments name = some value ∧ value ≠ .null := by
  simp only [← isSet_entry_eq_true_iff, checkRequired_eq]
  cases found : required.find? (fun name => !isSet (entry arguments name)) with
  | none => simpa using found
  | some name =>
      have unset := List.find?_some found
      have member := List.mem_of_find?_eq_some found
      simp only [reduceCtorEq, false_iff, not_forall]
      exact ⟨name, member, by simpa using unset⟩

theorem argumentsOf_eq {plan : Plan} {parameters : Value} {given : Entries}
    (arguments : OptionalMapping parameters given) :
    argumentsOf plan parameters = .ok (if plan.takesParameters then given else []) := by
  unfold argumentsOf
  split
  · exact optionalEntries_eq arguments
  · rfl

theorem lift_ne_missing {α : Type} {result : Except Misuse α} {argument : Value} :
    lift result ≠ .error (.missing argument) := by
  rw [lift, Ne, mapError_eq_error]
  rintro ⟨_, -, same⟩
  exact Fault.noConfusion same

/-- A call reports the argument that its checks report, and no other. -/
theorem evaluate_eq_missing_iff {functions : List String} {plan : Plan} {parameters options : Value}
    {given : Entries} (arguments : OptionalMapping parameters given) {argument : Value} :
    evaluate functions plan parameters options = .error (.missing argument) ↔
      checkRequired (if plan.takesParameters then given else []) plan.request.required =
        .error (.missing argument) := by
  simp only [evaluate, argumentsOf_eq arguments]
  rw [bind_eq_error, or_iff_right lift_ne_missing]
  simp only [lift, mapError_eq_ok, Except.ok.injEq, exists_eq_left']
  rw [bind_eq_error]
  refine or_iff_left ?_
  rintro ⟨_, -, later⟩
  rw [bind_eq_error] at later
  rcases later with failed | ⟨_, -, later⟩
  · exact lift_ne_missing failed
  · rw [bind_eq_error] at later
    rcases later with failed | ⟨_, -, later⟩
    · exact lift_ne_missing failed
    · simp [pure, Except.pure] at later

/-- A parameter that has to be given and is not: its argument is absent or nothing. -/
structure Lacking (given : Entries) (parameter : Parameter) : Prop where
  required : parameter.required = true
  explicit : isReserved parameter = false
  unset : Value.field? given (argumentOf parameter) = none ∨
    Value.field? given (argumentOf parameter) = some .null

/-- The same as a test. -/
def lacks (given : Entries) (parameter : Parameter) : Bool :=
  (parameter.required && !isReserved parameter) && !isSet (entry given (argumentOf parameter))

theorem lacks_eq_true_iff {given : Entries} {parameter : Parameter} :
    lacks given parameter = true ↔ Lacking given parameter := by
  simp only [lacks, Bool.and_eq_true, Bool.not_eq_true', isSet_eq_false_iff, entry_eq_null_iff]
  constructor
  · rintro ⟨⟨required, explicit⟩, unset⟩
    exact ⟨required, explicit, unset⟩
  · rintro ⟨required, explicit, unset⟩
    exact ⟨⟨required, explicit⟩, unset⟩

/-- A function without parameters has nothing to check. -/
theorem required_eq_nil_of_not_takesParameters {operation : Operation} {info : Info}
    {servers : List Server} {versions : Versions} {plan : Plan}
    (planned : ofOperation operation info servers versions = .ok plan)
    (without : plan.takesParameters = false) : plan.request.required = [] := by
  obtain ⟨operationId, server, others, segments, -, -, rfl, -, -, -, rfl⟩ :=
    ofOperation_eq_ok_iff.mp planned
  obtain ⟨none, -⟩ := (takesParameters_built_eq_false_iff ..).mp without
  rw [required_built, none]
  rfl

/-- A call reports the first parameter, in the order of declaration, that has to be given and is
not. -/
theorem evaluate_eq_missing_iff_find? {operation : Operation} {info : Info} {servers : List Server}
    {versions : Versions} {plan : Plan}
    (planned : ofOperation operation info servers versions = .ok plan) {functions : List String}
    {parameters options : Value} {given : Entries} (arguments : OptionalMapping parameters given)
    {argument : Value} :
    evaluate functions plan parameters options = .error (.missing argument) ↔
      ∃ parameter, operation.parameters.find? (lacks given) = some parameter ∧
        argument = .str (argumentOf parameter) := by
  have required_eq : plan.request.required =
      (operation.parameters.filter fun parameter =>
        parameter.required && !isReserved parameter).map argumentOf := by
    obtain ⟨operationId, server, others, segments, -, -, rfl, -, -, -, rfl⟩ :=
      ofOperation_eq_ok_iff.mp planned
    rw [required_built, explicitParameters, List.filter_filter]
  have reported (names : Entries) : plan.request.required.find? (fun name =>
      !isSet (entry names name)) = (operation.parameters.find? (lacks names)).map argumentOf := by
    rw [required_eq, List.find?_map, List.find?_filter]
    congr 2
    funext parameter
    simp only [lacks, Function.comp_apply, Bool.decide_and, Bool.decide_eq_true]
  rw [evaluate_eq_missing_iff arguments, checkRequired_eq]
  cases takes : plan.takesParameters with
  | true =>
      rw [if_pos rfl, reported]
      cases operation.parameters.find? (lacks given) <;> simp [eq_comm]
  | false =>
      have unchecked := required_eq_nil_of_not_takesParameters planned takes
      have none := reported given
      rw [unchecked, List.find?_nil, eq_comm, Option.map_eq_none_iff] at none
      simp [unchecked, none]

theorem find?_lacks_eq_some_iff {given : Entries} {parameters : List Parameter}
    {parameter : Parameter} :
    parameters.find? (lacks given) = some parameter ↔
      Lacking given parameter ∧ ∃ before after, parameters = before ++ parameter :: after ∧
        ∀ other ∈ before, ¬ Lacking given other := by
  simp only [List.find?_eq_some_iff_append, Bool.not_eq_true', ← lacks_eq_true_iff,
    Bool.not_eq_true]

/-- A call reports a missing argument exactly where a parameter that has to be given is not,
whatever its options are. It names the argument of the first such parameter, and it dispatches
nothing. -/
theorem evaluate_missing {operation : Operation} {info : Info} {servers : List Server}
    {versions : Versions} {plan : Plan}
    (planned : ofOperation operation info servers versions = .ok plan) (functions : List String)
    {parameters : Value} {given : Entries} (arguments : OptionalMapping parameters given)
    (options : Value) :
    ((∃ argument, evaluate functions plan parameters options = .error (.missing argument)) ↔
        ∃ parameter ∈ operation.parameters, Lacking given parameter) ∧
      (∀ argument, evaluate functions plan parameters options = .error (.missing argument) →
        ∃ before parameter after, operation.parameters = before ++ parameter :: after ∧
          Lacking given parameter ∧ (∀ other ∈ before, ¬ Lacking given other) ∧
          argument = .str (argumentOf parameter)) ∧
      ((∃ parameter ∈ operation.parameters, Lacking given parameter) →
        ∀ request, evaluate functions plan parameters options ≠ .ok request) := by
  have exact_iff : (∃ argument,
      evaluate functions plan parameters options = .error (.missing argument)) ↔
        ∃ parameter ∈ operation.parameters, Lacking given parameter := by
    simp only [evaluate_eq_missing_iff_find? planned arguments]
    constructor
    · rintro ⟨argument, parameter, found, -⟩
      exact ⟨parameter, List.mem_of_find?_eq_some found,
        lacks_eq_true_iff.mp (List.find?_some found)⟩
    · rintro ⟨parameter, member, lacking⟩
      have some : (operation.parameters.find? (lacks given)).isSome = true :=
        List.find?_isSome.mpr ⟨parameter, member, lacks_eq_true_iff.mpr lacking⟩
      obtain ⟨first, found⟩ := Option.isSome_iff_exists.mp some
      exact ⟨_, first, found, rfl⟩
  refine ⟨exact_iff, ?_, ?_⟩
  · intro argument failed
    obtain ⟨parameter, found, rfl⟩ := (evaluate_eq_missing_iff_find? planned arguments).mp failed
    obtain ⟨lacking, before, after, split, earlier⟩ := find?_lacks_eq_some_iff.mp found
    exact ⟨before, parameter, after, split, lacking, earlier, rfl⟩
  · intro lacking request dispatched
    obtain ⟨argument, failed⟩ := exact_iff.mpr lacking
    rw [dispatched] at failed
    contradiction

set_option maxRecDepth 4000 in
/-- Nothing is no user, and options that are no mapping do not matter. -/
theorem evaluate_missing_ordersOperation :
    ∃ plan, ofOperation ordersOperation shopInfo shopServers shopVersions = .ok plan ∧
      ∃ argument, evaluate [] plan (.map [(.str "user_id", .null)]) (.int 3) =
        .error (.missing argument) := by
  obtain ⟨plan, planned⟩ := exists_plan_ordersOperation
  have named : argumentOf ⟨"userId", .path, true, false, none, ["string"]⟩ = "user_id" := by decide
  have lacking : Lacking [(.str "user_id", .null)]
      ⟨"userId", .path, true, false, none, ["string"]⟩ :=
    ⟨rfl, by decide, Or.inr (by rw [named, Value.field?_cons_self])⟩
  exact ⟨plan, planned, (evaluate_missing planned [] (.mapping _) (.int 3)).1.mpr
    ⟨_, by simp [ordersOperation], lacking⟩⟩

end ApiCompiler.Call
