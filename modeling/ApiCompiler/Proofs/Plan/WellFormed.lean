import ApiCompiler.Proofs.Call.Required
import ApiCompiler.Proofs.Plan.Places
import Mathlib.Data.List.Perm.Basic

/-!
# Well-formed plans

Every plan of an operation is well-formed: its segments, query entries, headers and checks speak of
one list of arguments, and each argument fills exactly the place that its parameter asks for. So a
request never lacks the argument of a segment once the required arguments are checked.
-/

namespace ApiCompiler.Plan

open Outcome

/-- What holds of the plan of an operation. -/
structure WellFormed (operation : Operation) (plan : Plan) : Prop where
  /-- The arguments are those of the parameters that report no version, in their order. -/
  arguments_eq : plan.arguments = (explicitParameters operation).map argumentOf
  arguments_distinct : plan.arguments.Nodup
  apart_from_body : plan.acceptsBody = true → bodyArgument ∉ plan.arguments
  /-- An argument fills one place, the one that its parameter has by its location. -/
  filled_once : ∀ parameter ∈ explicitParameters operation,
    placesOf plan.request (argumentOf parameter) = [placeOf parameter]
  /-- What is named at a place or in a check is an argument. -/
  named_is_argument : ∀ argument,
    placesOf plan.request argument ≠ [] ∨ argument ∈ plan.request.required →
      argument ∈ plan.arguments
  /-- The segments that are filled are, in another order, the path parameters with their
  arguments. -/
  segments_perm : (filledSegments plan.request.segments).Perm
    ((parametersAt .path operation).map fun parameter => (parameter.name, argumentOf parameter))
  segments_distinct : ((filledSegments plan.request.segments).map (·.1)).Nodup
  segments_checked : ∀ name argument, Segment.parameter name argument ∈ plan.request.segments →
    argument ∈ plan.request.required
  /-- A function without parameters speaks of no argument. -/
  silent : plan.takesParameters = false →
    (∀ argument, placesOf plan.request argument = []) ∧ plan.request.required = [] ∧
      plan.request.carriesBody = false
  /-- Once the checks have passed, the arguments of all segments are there. -/
  segments_found : ∀ arguments : Call.Entries,
    Call.checkRequired arguments plan.request.required = .ok () →
      (∀ name argument, Segment.parameter name argument ∈ plan.request.segments →
        ∃ value, Value.field? arguments argument = some value ∧ value ≠ .null) ∧
      Call.urlOf plan.request arguments ≠ .error .absentKey

/-- What a filled segment of a path is filled with. -/
theorem mem_parameter_of_fills {parameters : List Parameter} {pieces : List (List Char)}
    {segments : List Segment}
    (matched : List.Forall₂ (Fills (withArguments parameters)) pieces segments)
    {name argument : String} (member : Segment.parameter name argument ∈ segments) :
    ∃ parameter ∈ parameters, parameter.name = name ∧ argumentOf parameter = argument ∧
      parameter.required = true := by
  induction matched with
  | nil => simp at member
  | @cons piece segment pieces segments fills matched induction =>
      rcases List.mem_cons.mp member with rfl | later
      · cases fills with
        | @parameter _ _ parameter names declared required =>
            have present := List.mem_of_find?_eq_some declared
            have selected : parameter.name = name := by
              simpa using List.find?_some declared
            simp only [withArguments, List.mem_map, Prod.mk.injEq] at present
            obtain ⟨_, present, rfl, rfl⟩ := present
            exact ⟨_, present, selected, rfl, required⟩
      · exact induction later

theorem mem_filledSegments_iff {operation : Operation} {segments : List Segment}
    (cut : segmentsOf (withArguments (parametersAt .path operation)) operation.path = .ok segments)
    {name argument : String} :
    (name, argument) ∈ filledSegments segments ↔
      ∃ parameter ∈ parametersAt .path operation,
        parameter.name = name ∧ argumentOf parameter = argument := by
  obtain ⟨matched, -, used⟩ := segmentsOf_eq_ok_iff.mp cut
  rw [mem_filledSegments]
  constructor
  · intro member
    obtain ⟨parameter, present, named, called, -⟩ := mem_parameter_of_fills matched member
    exact ⟨parameter, present, named, called⟩
  · rintro ⟨parameter, present, rfl, rfl⟩
    have bound : parameter.name ∈ boundNames segments :=
      used (parameter, argumentOf parameter) (List.mem_map.mpr ⟨parameter, present, rfl⟩)
    obtain ⟨argument, member⟩ := mem_boundNames.mp bound
    obtain ⟨other, -, named, rfl, -⟩ := mem_parameter_of_fills matched member
    -- Parameters of one name are called by one argument, so this is the parameter itself.
    have called : argumentOf other = argumentOf parameter := by rw [argumentOf, named, argumentOf]
    rwa [called] at member

theorem filledSegments_perm {operation : Operation} {segments : List Segment}
    (distinct : (argumentNames operation).Nodup)
    (cut : segmentsOf (withArguments (parametersAt .path operation)) operation.path =
      .ok segments) :
    (filledSegments segments).Perm
      ((parametersAt .path operation).map fun parameter =>
        (parameter.name, argumentOf parameter)) := by
  obtain ⟨-, namesDistinct, -⟩ := segmentsOf_eq_ok_iff.mp cut
  have argumentsDistinct : ((parametersAt .path operation).map argumentOf).Nodup :=
    distinct.sublist (List.filter_sublist.map argumentOf)
  apply (List.perm_ext_iff_of_nodup ?_ ?_).mpr
  · rintro ⟨name, argument⟩
    rw [mem_filledSegments_iff cut]
    simp
  · rw [← map_fst_filledSegments] at namesDistinct
    exact namesDistinct.of_map
  · apply List.Nodup.of_map (·.2)
    simpa [Function.comp_def] using argumentsDistinct

/-- Parameters sorted by their locations. -/
theorem locations_perm (parameters : List Parameter) :
    (parameters.filter (·.location == .path) ++ parameters.filter (·.location == .query) ++
      parameters.filter (·.location == .header)).Perm parameters := by
  induction parameters with
  | nil => exact .refl _
  | cons parameter parameters induction =>
      cases location : parameter.location with
      | path => simpa [location] using induction
      | query =>
          simp only [List.filter_cons, location, List.append_assoc]
          refine List.perm_middle.trans (.cons parameter ?_)
          simpa using induction
      | header =>
          simp only [List.filter_cons, location]
          refine List.perm_middle.trans (.cons parameter ?_)
          simpa using induction

theorem map_placeOf_filter (location : Location) (make : String → Place)
    (parameters : List Parameter)
    (agrees : ∀ parameter, parameter.location = location →
      placeOf parameter = make parameter.name) :
    (parameters.filter (·.location == location)).map
        (fun parameter => (placeOf parameter, argumentOf parameter)) =
      (parameters.filter (·.location == location)).map fun parameter =>
        (make parameter.name, argumentOf parameter) := by
  apply List.map_congr_left
  intro parameter member
  have located : parameter.location = location := by simpa using (List.mem_filter.mp member).2
  rw [agrees parameter located]

section Built

variable {operation : Operation} {operationId : String} {info : Info} {server : Server}
  {versions : Versions} {segments : List Segment} (distinct : (argumentNames operation).Nodup)
  (cut : segmentsOf (withArguments (parametersAt .path operation)) operation.path = .ok segments)

include distinct cut in
/-- The places of a plan are, in another order, those of its parameters. -/
theorem filledPlaces_perm :
    (filledPlaces (built operation operationId info server versions segments).request).Perm
      ((explicitParameters operation).map fun parameter =>
        (placeOf parameter, argumentOf parameter)) := by
  have sorted := (locations_perm (explicitParameters operation)).map fun parameter =>
    (placeOf parameter, argumentOf parameter)
  refine List.Perm.trans ?_ sorted
  have atSegments := (filledSegments_perm distinct cut).map fun entry =>
    (Place.segment entry.1, entry.2)
  rw [List.map_append, List.map_append,
    map_placeOf_filter .path .segment _ (by simp +contextual [placeOf]),
    map_placeOf_filter .query .query _ (by simp +contextual [placeOf]),
    map_placeOf_filter .header .header _ (by simp +contextual [placeOf])]
  simp only [filledPlaces, build, queryBindings_withArguments, filledHeaders_headerBindings,
    List.map_map, Function.comp_def]
  refine (List.Perm.append_right _ (List.Perm.append_right _ ?_))
  simpa [parametersAt, Function.comp_def] using atSegments

include distinct cut in
theorem placesOf_built {parameter : Parameter}
    (explicit : parameter ∈ explicitParameters operation) :
    placesOf (built operation operationId info server versions segments).request
      (argumentOf parameter) = [placeOf parameter] := by
  generalize request_eq :
    (built operation operationId info server versions segments).request = request
  have places : (filledPlaces request).Perm ((explicitParameters operation).map fun parameter =>
      (placeOf parameter, argumentOf parameter)) := by
    rw [← request_eq]
    exact filledPlaces_perm distinct cut
  have placesDistinct : ((filledPlaces request).map (·.2)).Nodup := by
    rw [(places.map (·.2)).nodup_iff]
    simpa [Function.comp_def, argumentNames] using distinct
  have member : (placeOf parameter, argumentOf parameter) ∈ filledPlaces request :=
    places.mem_iff.mpr (List.mem_map.mpr ⟨parameter, explicit, rfl⟩)
  rw [placesOf, filter_eq_singleton placesDistinct member]
  rfl

include distinct cut in
theorem mem_argumentNames_of_placesOf_ne_nil {argument : String}
    (placed :
      placesOf (built operation operationId info server versions segments).request argument ≠
      []) : argument ∈ argumentNames operation := by
  obtain ⟨place, member⟩ := List.exists_mem_of_ne_nil _ placed
  rw [mem_placesOf, (filledPlaces_perm distinct cut).mem_iff] at member
  obtain ⟨parameter, explicit, same⟩ := List.mem_map.mp member
  exact List.mem_map.mpr ⟨parameter, explicit, (Prod.mk.inj same).2⟩

include cut in
/-- The argument of a segment has a check. -/
theorem mem_required_of_mem_segments {name argument : String}
    (member : Segment.parameter name argument ∈ segments) :
    argument ∈ (built operation operationId info server versions segments).request.required := by
  obtain ⟨matched, -, -⟩ := segmentsOf_eq_ok_iff.mp cut
  obtain ⟨parameter, atPath, -, rfl, required⟩ := mem_parameter_of_fills matched member
  have explicit := (mem_parametersAt.mp atPath).1
  rw [required_built]
  exact List.mem_map.mpr ⟨parameter, by simp [explicit, required], rfl⟩

end Built

theorem mapM_segmentText_ne_absentKey {arguments : Call.Entries} {segments : List Segment}
    (present : ∀ name argument, Segment.parameter name argument ∈ segments →
      ∃ value, Value.field? arguments argument = some value ∧ value ≠ .null) :
    segments.mapM (Call.segmentText arguments) ≠ .error .absentKey := by
  induction segments with
  | nil => simp [pure, Except.pure]
  | cons segment segments induction =>
      intro failed
      rw [List.mapM_cons, bind_eq_error] at failed
      rcases failed with own | ⟨text, -, failed⟩
      · cases segment with
        | literal value => simp [Call.segmentText] at own
        | parameter name argument =>
            obtain ⟨value, found, -⟩ := present name argument List.mem_cons_self
            rw [Call.segmentText, found] at own
            simp only [Value.shown_eq] at own
            split at own <;> simp at own
      · rw [bind_eq_error] at failed
        rcases failed with later | ⟨texts, -, failed⟩
        · exact induction (fun name argument member =>
            present name argument (List.mem_cons_of_mem _ member)) later
        · simp [pure, Except.pure] at failed

theorem urlOf_ne_absentKey {request : RequestPlan} {arguments : Call.Entries}
    (present : ∀ name argument, Segment.parameter name argument ∈ request.segments →
      ∃ value, Value.field? arguments argument = some value ∧ value ≠ .null) :
    Call.urlOf request arguments ≠ .error .absentKey := by
  intro failed
  rw [Call.urlOf, bind_eq_error] at failed
  rcases failed with failed | ⟨texts, -, failed⟩
  · exact mapM_segmentText_ne_absentKey present failed
  · simp [pure, Except.pure] at failed

/-- Every plan is well-formed. -/
theorem plan_wellFormed {operation : Operation} {info : Info} {servers : List Server}
    {versions : Versions} {plan : Plan}
    (planned : ofOperation operation info servers versions = .ok plan) :
    WellFormed operation plan := by
  obtain ⟨operationId, server, others, segments, given, filled, rfl, distinct, apart, cut, rfl⟩ :=
    ofOperation_eq_ok_iff.mp planned
  have arguments_eq := arguments_built operation operationId info server versions segments
  have required_eq := required_built operation operationId info server versions segments
  refine ⟨arguments_eq, by rwa [arguments_eq], ?_, fun _ => placesOf_built distinct cut, ?_,
    filledSegments_perm distinct cut, ?_, fun _ _ => mem_required_of_mem_segments cut, ?_, ?_⟩
  · intro accepts
    rw [arguments_eq]
    exact apart accepts
  · intro argument named
    rw [arguments_eq]
    rcases named with placed | required
    · exact mem_argumentNames_of_placesOf_ne_nil distinct cut placed
    · rw [required_eq] at required
      obtain ⟨parameter, member, rfl⟩ := List.mem_map.mp required
      exact List.mem_map.mpr ⟨parameter, (List.mem_filter.mp member).1, rfl⟩
  · obtain ⟨-, namesDistinct, -⟩ := segmentsOf_eq_ok_iff.mp cut
    change ((filledSegments segments).map (·.1)).Nodup
    rwa [map_fst_filledSegments]
  · intro without
    obtain ⟨none, unaccepted⟩ := (takesParameters_built_eq_false_iff ..).mp without
    refine ⟨fun argument => ?_, ?_, by simp [build, unaccepted]⟩
    · by_contra placed
      simpa [argumentNames, none] using mem_argumentNames_of_placesOf_ne_nil distinct cut placed
    · rw [required_eq, none]
      rfl
  · intro arguments passed
    have present (name argument : String) (member : Segment.parameter name argument ∈ segments) :=
      Call.checkRequired_eq_ok_iff.mp passed argument (mem_required_of_mem_segments cut member)
    exact ⟨present, urlOf_ne_absentKey present⟩

theorem wellFormed_ordersOperation :
    ∃ plan, ofOperation ordersOperation shopInfo shopServers shopVersions = .ok plan ∧
      WellFormed ordersOperation plan := by
  obtain ⟨plan, planned⟩ := exists_plan_ordersOperation
  exact ⟨plan, planned, plan_wellFormed planned⟩

end ApiCompiler.Plan
