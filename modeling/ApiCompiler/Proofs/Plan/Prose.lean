import ApiCompiler.Proofs.Plan.All
import ApiCompiler.Proofs.Plan.Operation

/-!
# Prose of descriptions

What a description says to its readers alone: titles, summaries, descriptions and the types of
parameters. Plans keep it in their notes and nowhere else.
-/

namespace ApiCompiler

def Parameter.withoutProse (parameter : Parameter) : Parameter :=
  { parameter with description := none, schemaTypes := [] }

def Body.withoutProse (body : Body) : Body :=
  { body with description := none }

def Operation.withoutProse (operation : Operation) : Operation :=
  { operation with
    summary := none
    description := none
    parameters := operation.parameters.map Parameter.withoutProse
    body := operation.body.map Body.withoutProse }

def Info.withoutProse (info : Info) : Info :=
  { info with title := "", description := none }

/-- A description of which everything is dropped that is written for readers alone. -/
def Description.withoutProse (description : Description) : Description :=
  { description with
    info := description.info.withoutProse
    operations := description.operations.map Operation.withoutProse }

namespace Plan

/-- A plan that says nothing in documentation. -/
def withoutNotes (plan : Plan) : Plan :=
  { plan with notes := ⟨none, none, [], none⟩ }

/-- Parameters without their prose beside the arguments that they are called by. -/
def withoutProse (parameters : Named) : Named :=
  parameters.map fun entry => (entry.1.withoutProse, entry.2)

theorem explicitParameters_withoutProse (operation : Operation) :
    explicitParameters operation.withoutProse =
      (explicitParameters operation).map Parameter.withoutProse := by
  simp only [explicitParameters, Operation.withoutProse, List.filter_map]
  rfl

theorem withArguments_withoutProse (parameters : List Parameter) :
    withArguments (parameters.map Parameter.withoutProse) =
      withoutProse (withArguments parameters) := by
  simp only [withArguments, withoutProse, List.map_map]
  rfl

theorem parametersAt_withoutProse (location : Location) (operation : Operation) :
    parametersAt location operation.withoutProse =
      (parametersAt location operation).map Parameter.withoutProse := by
  simp only [parametersAt, explicitParameters_withoutProse, List.filter_map]
  rfl

theorem headerBindings_withoutProse (parameters : Named) (info : Info) (versions : Versions) :
    headerBindings (withoutProse parameters) info.withoutProse versions =
      headerBindings parameters info versions := by
  simp only [headerBindings, withoutProse, List.filter_map, List.map_map]
  rfl

theorem queryBindings_withoutProse (parameters : Named) :
    queryBindings (withoutProse parameters) = queryBindings parameters := by
  simp only [queryBindings, withoutProse, List.filter_map, List.map_map]
  rfl

theorem segmentOf_withoutProse (parameters : Named) (earlier : List Segment) (piece : List Char) :
    segmentOf (withoutProse parameters) earlier piece = segmentOf parameters earlier piece := by
  unfold segmentOf
  split
  · rfl
  · rename_i name _
    have searched : (withoutProse parameters).find? (·.1.name == name) =
        (parameters.find? (·.1.name == name)).map fun entry => (entry.1.withoutProse, entry.2) :=
      List.find?_map ..
    rw [searched]
    cases parameters.find? (·.1.name == name) <;> rfl

theorem segmentsOf_withoutProse (parameters : Named) (path : String) :
    segmentsOf (withoutProse parameters) path = segmentsOf parameters path := by
  simp only [segmentsOf, segmentOf_withoutProse]
  simp only [withoutProse, List.map_map]
  rfl

/-- Prose makes no difference to a plan without notes. -/
theorem withoutNotes_built (operation : Operation) (operationId : String) (info : Info)
    (server : Server) (versions : Versions) (segments : List Segment) :
    withoutNotes
      (built operation.withoutProse operationId info.withoutProse server versions segments) =
      withoutNotes (built operation operationId info server versions segments) := by
  have body : operation.withoutProse.body = operation.body.map Body.withoutProse := rfl
  have media : (operation.body.map Body.withoutProse).bind (·.contentTypes.head?) =
      operation.body.bind (·.contentTypes.head?) := by
    rw [Option.bind_map]
    rfl
  simp only [built, build, withoutNotes, explicitParameters_withoutProse,
    withArguments_withoutProse,
    headerBindings_withoutProse, queryBindings_withoutProse, body, media, Option.isSome_map]
  simp only [withoutProse, List.filter_map, List.map_map]
  rfl

/-- The pieces of a path are filled whatever is said about its parameters. -/
theorem segmentsOf_parametersAt_withoutProse (operation : Operation) :
    segmentsOf (withArguments (parametersAt .path operation.withoutProse))
      operation.withoutProse.path =
      segmentsOf (withArguments (parametersAt .path operation)) operation.path := by
  rw [parametersAt_withoutProse, withArguments_withoutProse, segmentsOf_withoutProse]
  rfl

/-- Operations that differ in their prose alone have plans that differ in their notes alone. -/
theorem withoutNotes_eq_of_ofOperation {first second : Operation} {info other : Info}
    {servers : List Server} {versions : Versions} {plan another : Plan}
    (same : first.withoutProse = second.withoutProse)
    (alike : info.withoutProse = other.withoutProse)
    (planned : ofOperation first info servers versions = .ok plan)
    (also : ofOperation second other servers versions = .ok another) :
    withoutNotes plan = withoutNotes another := by
  obtain ⟨operationId, server, _, segments, given, -, rfl, -, -, cut, rfl⟩ :=
    ofOperation_eq_ok_iff.mp planned
  obtain ⟨operationId', server', _, segments', given', -, served, -, -, cut', rfl⟩ :=
    ofOperation_eq_ok_iff.mp also
  have identified : first.operationId = second.operationId := by
    change first.withoutProse.operationId = second.withoutProse.operationId
    rw [same]
  obtain rfl : operationId = operationId' := by
    rw [given, given'] at identified
    exact Option.some.inj identified
  obtain rfl : server = server' := (List.cons.inj served).1
  obtain rfl : segments = segments' := by
    rw [← segmentsOf_parametersAt_withoutProse, same,
      segmentsOf_parametersAt_withoutProse, cut'] at cut
    exact (Except.ok.inj cut).symm
  rw [← withoutNotes_built first, ← withoutNotes_built second, same, alike]

/-- Plans agree where the operations that they are made of do. -/
theorem map_eq_of_forall₂ {α : Type} {key : Operation → α} {view : Plan → Plan}
    {made also : Operation → Plan → Prop} {operations others : List Operation}
    {plans copies : List Plan}
    (each : List.Forall₂ made operations plans) (every : List.Forall₂ also others copies)
    (same : operations.map key = others.map key)
    (agree : ∀ {first second : Operation} {plan copy : Plan}, key first = key second →
      made first plan → also second copy → view plan = view copy) :
    plans.map view = copies.map view := by
  induction each generalizing others copies with
  | nil =>
      obtain rfl := List.map_eq_nil_iff.mp same.symm
      cases every
      rfl
  | cons first rest induction =>
      cases every with
      | nil => contradiction
      | cons second others =>
          obtain ⟨alike, later⟩ := List.cons.inj same
          rw [List.map_cons, List.map_cons, agree alike first second, induction others later]

/-- Descriptions that differ in their prose alone have plans that differ in their notes alone. -/
theorem map_withoutNotes_eq_of_ofDescription {first second : Description} {versions : Versions}
    {plans others : List Plan} (same : first.withoutProse = second.withoutProse)
    (planned : (ofDescription first versions).result = .ok plans)
    (also : (ofDescription second versions).result = .ok others) :
    plans.map withoutNotes = others.map withoutNotes := by
  obtain ⟨info, servers, operations, format⟩ := first
  obtain ⟨info', servers', operations', format'⟩ := second
  simp only [Description.withoutProse, Description.mk.injEq] at same
  obtain ⟨alike, rfl, operationsAlike, -⟩ := same
  refine map_eq_of_forall₂ (forall₂_of_ofDescription planned) (forall₂_of_ofDescription also)
    operationsAlike ?_
  intro first second plan copy equal made again
  exact withoutNotes_eq_of_ofOperation equal alike made again

end Plan

end ApiCompiler
