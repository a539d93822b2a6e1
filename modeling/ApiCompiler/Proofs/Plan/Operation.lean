import ApiCompiler.Plan.Operation
import ApiCompiler.Plan.Path
import ApiCompiler.Proofs.Outcome
import Mathlib.Data.List.Forall2
import Mathlib.Data.List.Nodup

/-!
# Plans of operations

What cutting a path gives. Each piece that is not empty becomes one segment by a rule of its own, no
placeholder stands twice, and none of the path parameters is left over; nothing else is refused.

Which parameters of an operation are arguments of its function, and under which names: names are
given exactly where no two are the same and none is that of the body. When an operation has a plan,
and which plan that is.
-/

namespace ApiCompiler.Plan

open Outcome

/-- The segment that a piece of a path gives by itself, whatever stands before it. -/
inductive Fills (parameters : Named) : List Char → Segment → Prop where
  | literal {piece : List Char} (unnamed : placeholder? piece = none)
      (whole : hasPlaceholder piece = false) :
      Fills parameters piece (.literal (String.ofList piece))
  | parameter {piece : List Char} {name argument : String} {parameter : Parameter}
      (names : placeholder? piece = some name)
      (declared : parameters.find? (·.1.name == name) = some (parameter, argument))
      (required : parameter.required = true) :
      Fills parameters piece (.parameter name argument)

@[simp] theorem boundNames_nil : boundNames [] = [] := rfl

@[simp] theorem boundNames_literal (value : String) (segments : List Segment) :
    boundNames (.literal value :: segments) = boundNames segments := rfl

@[simp] theorem boundNames_parameter (name argument : String) (segments : List Segment) :
    boundNames (.parameter name argument :: segments) = name :: boundNames segments := rfl

@[simp] theorem boundNames_append (left right : List Segment) :
    boundNames (left ++ right) = boundNames left ++ boundNames right := by
  simp [boundNames]

theorem mem_boundNames {segments : List Segment} {name : String} :
    name ∈ boundNames segments ↔ ∃ argument, Segment.parameter name argument ∈ segments := by
  induction segments with
  | nil => simp
  | cons segment segments induction =>
      cases segment with
      | literal value => simp [induction]
      | parameter other argument =>
          simp only [boundNames_parameter, List.mem_cons, induction, Segment.parameter.injEq]
          constructor
          · rintro (rfl | ⟨found, member⟩)
            · exact ⟨argument, .inl ⟨rfl, rfl⟩⟩
            · exact ⟨found, .inr member⟩
          · rintro ⟨found, ⟨rfl, rfl⟩ | member⟩
            · exact .inl rfl
            · exact .inr ⟨found, member⟩

/-- One piece is refused for what it is, or because its name stands before it. -/
theorem segmentOf_eq_ok_iff {parameters : Named} {earlier : List Segment} {piece : List Char}
    {segment : Segment} :
    segmentOf parameters earlier piece = .ok segment ↔
      Fills parameters piece segment ∧
        ∀ name ∈ boundNames [segment], name ∉ boundNames earlier := by
  constructor
  · intro filled
    cases names : placeholder? piece with
    | none =>
        cases whole : hasPlaceholder piece with
        | true => simp [segmentOf, names, whole] at filled
        | false =>
            simp only [segmentOf, names, whole, Bool.false_eq_true, if_false,
              Except.ok.injEq] at filled
            subst filled
            exact ⟨.literal names whole, by simp⟩
    | some name =>
        cases declared : parameters.find? (·.1.name == name) with
        | none => simp [segmentOf, names, declared] at filled
        | some entry =>
            obtain ⟨parameter, argument⟩ := entry
            cases required : parameter.required with
            | false =>
                simp only [segmentOf, names, declared, required] at filled
                split at filled <;> simp at filled
            | true =>
                by_cases repeated : name ∈ boundNames earlier
                · simp [segmentOf, names, declared, repeated] at filled
                · simp only [segmentOf, names, declared, required, List.contains_eq_mem,
                    repeated, decide_false, Bool.not_true, Bool.false_eq_true, if_false,
                    Except.ok.injEq] at filled
                  subst filled
                  exact ⟨.parameter names declared required, by simpa using repeated⟩
  · rintro ⟨fills, fresh⟩
    cases fills with
    | literal unnamed whole => simp [segmentOf, unnamed, whole]
    | @parameter name argument parameter names declared required =>
        have absent : name ∉ boundNames earlier := fresh name (by simp)
        simp [segmentOf, names, declared, required, absent]

/-- What cutting further pieces adds to the segments that are there. -/
theorem foldlM_segmentOf_eq_ok_iff {parameters : Named} {pieces : List (List Char)}
    {earlier segments : List Segment} :
    pieces.foldlM (fun earlier piece =>
        return earlier ++ [← segmentOf parameters earlier piece]) earlier = .ok segments ↔
      ∃ later, segments = earlier ++ later ∧ List.Forall₂ (Fills parameters) pieces later ∧
        (boundNames later).Nodup ∧ ∀ name ∈ boundNames later, name ∉ boundNames earlier := by
  induction pieces generalizing earlier with
  | nil => simp [pure, Except.pure, eq_comm]
  | cons piece pieces induction =>
      simp only [List.foldlM_cons, bind_eq_ok, pure, Except.pure, Except.ok.injEq,
        segmentOf_eq_ok_iff, exists_exists_and_eq_and]
      constructor
      · rintro ⟨segment, ⟨fills, fresh⟩, rest⟩
        obtain ⟨later, rfl, matched, distinct, apart⟩ := induction.mp rest
        have split : boundNames (segment :: later) = boundNames [segment] ++ boundNames later :=
          boundNames_append [segment] later
        refine ⟨segment :: later, by simp, .cons fills matched, ?_, ?_⟩
        · rw [split, List.nodup_append]
          refine ⟨?_, distinct, ?_⟩
          · cases segment <;> simp
          · intro name own other later same
            exact apart other later (by simp [← same, own])
        · intro name member
          rw [split, List.mem_append] at member
          rcases member with own | later
          · exact fresh name own
          · exact fun old => apart name later (by simp [old])
      · rintro ⟨later, rfl, matched, distinct, apart⟩
        cases matched with
        | @cons _ segment _ later fills matched =>
            have split : boundNames (segment :: later) = boundNames [segment] ++ boundNames later :=
              boundNames_append [segment] later
            rw [split] at distinct apart
            obtain ⟨-, distinct, between⟩ := List.nodup_append.mp distinct
            refine ⟨segment, ⟨fills, fun name own => apart name (by simp [own])⟩,
              induction.mpr ⟨later, by simp, matched, distinct, ?_⟩⟩
            intro name member old
            rw [boundNames_append, List.mem_append] at old
            rcases old with old | own
            · exact apart name (by simp [member]) old
            · exact between name own name member rfl

/-- A path is cut exactly where each piece has a segment, no placeholder is repeated and no path
parameter is left over. -/
theorem segmentsOf_eq_ok_iff {parameters : Named} {path : String} {segments : List Segment} :
    segmentsOf parameters path = .ok segments ↔
      List.Forall₂ (Fills parameters) (pathPieces path) segments ∧ (boundNames segments).Nodup ∧
        ∀ entry ∈ parameters, entry.1.name ∈ boundNames segments := by
  have complete (segments : List Segment) :
      ((parameters.map (·.1.name)).filter (!(boundNames segments).contains ·)).isEmpty = true ↔
        ∀ entry ∈ parameters, entry.1.name ∈ boundNames segments := by
    rw [List.isEmpty_iff, List.filter_eq_nil_iff]
    simp only [List.mem_map, forall_exists_index, and_imp, forall_apply_eq_imp_iff₂,
      List.contains_eq_mem, Bool.not_eq_true', decide_eq_false_iff_not, not_not]
  simp only [segmentsOf, bind_eq_ok, foldlM_segmentOf_eq_ok_iff, List.nil_append, exists_eq_left']
  constructor
  · rintro ⟨cut, ⟨matched, distinct, -⟩, left⟩
    split at left
    · rename_i empty
      obtain rfl : cut = segments := by simpa [pure, Except.pure] using left
      exact ⟨matched, distinct, (complete cut).mp empty⟩
    · simp [throw, throwThe, MonadExceptOf.throw] at left
  · rintro ⟨matched, distinct, used⟩
    refine ⟨segments, ⟨matched, distinct, by simp⟩, ?_⟩
    rw [if_pos ((complete segments).mpr used)]
    rfl

/-- The argument that a parameter is called by. -/
def argumentOf (parameter : Parameter) : String :=
  Naming.argumentName parameter.name

/-- The parameters that are arguments, in the order of their declaration. -/
def explicitParameters (operation : Operation) : List Parameter :=
  operation.parameters.filter (!isReserved ·)

/-- The names of the arguments of an operation, the body left out. -/
def argumentNames (operation : Operation) : List String :=
  (explicitParameters operation).map argumentOf

/-- Parameters beside the arguments that they are called by. -/
def withArguments (parameters : List Parameter) : Named :=
  parameters.map fun parameter => (parameter, argumentOf parameter)

@[simp] theorem map_snd_withArguments (parameters : List Parameter) :
    (withArguments parameters).map (·.2) = parameters.map argumentOf := by
  simp [withArguments]

theorem withArguments_filter (test : Parameter → Bool) (parameters : List Parameter) :
    (withArguments parameters).filter (fun entry => test entry.1) =
      withArguments (parameters.filter test) := by
  simp [withArguments, List.filter_map, Function.comp_def]

theorem find?_taken_eq_none {taken : List (String × Owner)} {argument : String} :
    taken.find? (·.1 == argument) = none ↔ argument ∉ taken.map (·.1) := by
  simp only [List.find?_eq_none, beq_iff_eq, List.mem_map, not_exists, not_and]

/-- Arguments are given exactly where they differ from each other and from what is taken. -/
theorem assignArguments_eq_ok_iff {operationId : String} {taken : List (String × Owner)}
    {parameters : List Parameter} {result : Named} :
    assignArguments operationId taken parameters = .ok result ↔
      result = withArguments parameters ∧ (parameters.map argumentOf).Nodup ∧
        ∀ argument ∈ parameters.map argumentOf, argument ∉ taken.map (·.1) := by
  induction parameters generalizing taken result with
  | nil => simp [assignArguments, withArguments, eq_comm]
  | cons parameter parameters induction =>
      rw [assignArguments]
      cases found : taken.find? (·.1 == argumentOf parameter) with
      | some owner =>
          have present : argumentOf parameter ∈ taken.map (·.1) := by
            by_contra absent
            rw [find?_taken_eq_none.mpr absent] at found
            contradiction
          rw [argumentOf] at found
          simp only [found, reduceCtorEq, false_iff, not_and]
          intro _ _ apart
          exact apart _ List.mem_cons_self present
      | none =>
          have absent := find?_taken_eq_none.mp found
          simp only [argumentOf] at found absent
          simp only [found, bind_eq_ok, induction, pure, Except.pure, Except.ok.injEq]
          constructor
          · rintro ⟨later, ⟨rfl, distinct, apart⟩, rfl⟩
            refine ⟨by simp [withArguments, argumentOf], ?_, ?_⟩
            · rw [List.map_cons, List.nodup_cons]
              exact ⟨fun repeated => apart _ repeated (by simp [argumentOf]), distinct⟩
            · intro argument member
              rcases List.mem_cons.mp member with rfl | later
              · exact absent
              · exact fun old => apart argument later (by simp [old])
          · rintro ⟨rfl, distinct, apart⟩
            rw [List.map_cons, List.nodup_cons] at distinct
            refine ⟨withArguments parameters, ⟨rfl, distinct.2, ?_⟩, by
              simp [withArguments, argumentOf]⟩
            intro argument member old
            rcases List.mem_cons.mp old with rfl | old
            · exact distinct.1 member
            · exact apart argument (List.mem_cons_of_mem _ member) old

/-- The arguments of an operation are given exactly where they differ from each other and from its
body. -/
theorem namedParameters_eq_ok_iff {operationId : String} {operation : Operation} {result : Named} :
    namedParameters operationId operation = .ok result ↔
      result = withArguments (explicitParameters operation) ∧ (argumentNames operation).Nodup ∧
        (operation.body.isSome = true → bodyArgument ∉ argumentNames operation) := by
  rw [namedParameters, assignArguments_eq_ok_iff]
  cases carries : operation.body.isSome with
  | false => simp [explicitParameters, argumentNames]
  | true =>
      have apart (names : List String) :
          (∀ argument ∈ names, argument ∉ [(bodyArgument, Owner.body)].map (·.1)) ↔
            bodyArgument ∉ names := by
        simp only [List.map_cons, List.map_nil, List.mem_singleton]
        exact ⟨fun apart member => apart _ member rfl,
          fun absent argument member same => absent (same ▸ member)⟩
      simp only [if_true, apart, forall_const]
      rfl

/-- The arguments of an operation that are sent at one location. -/
def parametersAt (location : Location) (operation : Operation) : List Parameter :=
  (explicitParameters operation).filter (·.location == location)

theorem mem_parametersAt {location : Location} {operation : Operation} {parameter : Parameter} :
    parameter ∈ parametersAt location operation ↔
      parameter ∈ explicitParameters operation ∧ parameter.location = location := by
  simp [parametersAt]

theorem identified_eq_ok_iff {operation : Operation} {operationId : String} :
    identified operation = .ok operationId ↔
      operation.operationId = some operationId ∧ operationId ≠ "" := by
  cases given : operation.operationId with
  | none => simp [identified, given]
  | some name =>
      by_cases empty : name = ""
      · subst empty
        simp only [identified, given, reduceCtorEq, Option.some.injEq, false_iff, not_and, not_not]
        exact fun same => same.symm
      · simp only [identified, given, Except.ok.injEq, Option.some.injEq]
        constructor
        · rintro rfl
          exact ⟨rfl, empty⟩
        · exact And.left

section Built

variable (operation : Operation) (operationId : String) (info : Info) (server : Server)
  (versions : Versions) (segments : List Segment)

/-- The plan of an operation, once its path is cut. -/
abbrev built : Plan :=
  build operation operationId info server versions (withArguments (explicitParameters operation))
    segments

theorem arguments_built :
    (built operation operationId info server versions segments).arguments =
      argumentNames operation :=
  map_snd_withArguments _

theorem required_built :
    (built operation operationId info server versions segments).request.required =
      ((explicitParameters operation).filter (·.required)).map argumentOf := by
  simp only [build, withArguments_filter (·.required), map_snd_withArguments]

theorem takesParameters_built_eq_false_iff :
    (built operation operationId info server versions segments).takesParameters = false ↔
      explicitParameters operation = [] ∧ operation.body = none := by
  simp [Plan.takesParameters, build]

end Built

/-- An operation has a plan exactly where it has an identifier and a server, its arguments differ
from each other and from its body, and its path agrees with its path parameters. -/
theorem ofOperation_eq_ok_iff {operation : Operation} {info : Info} {servers : List Server}
    {versions : Versions} {plan : Plan} :
    ofOperation operation info servers versions = .ok plan ↔
      ∃ operationId server others segments,
        operation.operationId = some operationId ∧ operationId ≠ "" ∧ servers = server :: others ∧
          (argumentNames operation).Nodup ∧
          (operation.body.isSome = true → bodyArgument ∉ argumentNames operation) ∧
          segmentsOf (withArguments (parametersAt .path operation)) operation.path = .ok segments ∧
          plan = built operation operationId info server versions segments := by
  have atPath : (withArguments (explicitParameters operation)).filter (·.1.location == .path) =
      withArguments (parametersAt .path operation) :=
    withArguments_filter (·.location == .path) _
  cases servers with
  | nil =>
      simp only [ofOperation, bind_eq_ok, throw, throwThe, MonadExceptOf.throw]
      simp
  | cons server others =>
      simp only [ofOperation, bind_eq_ok, identified_eq_ok_iff, namedParameters_eq_ok_iff,
        mapError_eq_ok, pure, Except.pure, Except.ok.injEq]
      constructor
      · rintro ⟨operationId, ⟨given, filled⟩, _, ⟨rfl, distinct, apart⟩, segments, cut, rfl⟩
        rw [atPath] at cut
        exact ⟨operationId, server, others, segments, given, filled, rfl, distinct, apart, cut, rfl⟩
      · rintro ⟨operationId, _, _, segments, given, filled, same, distinct, apart, cut, rfl⟩
        obtain ⟨rfl, rfl⟩ := List.cons.inj same
        exact ⟨operationId, ⟨given, filled⟩, _, ⟨rfl, distinct, apart⟩, segments, atPath ▸ cut, rfl⟩

/-- A function is called after the identifier of its operation. -/
theorem names_of_ofOperation {operation : Operation} {info : Info} {servers : List Server}
    {versions : Versions} {plan : Plan}
    (planned : ofOperation operation info servers versions = .ok plan) :
    operation.operationId = some plan.operationId ∧ plan.operationId ≠ "" ∧
      plan.functionName = Naming.functionName plan.operationId := by
  obtain ⟨operationId, _, _, _, given, filled, -, -, -, -, rfl⟩ := ofOperation_eq_ok_iff.mp planned
  exact ⟨given, filled, by simp only [build]⟩

/-- An operation with parameters at every location, one of them called like a version, and a
body. -/
def ordersOperation : Operation where
  path := "/users/{userId}/orders"
  method := .post
  operationId := some "createOrder"
  summary := none
  description := none
  parameters := [
    ⟨"X-Request-ID", .header, false, false, none, ["string"]⟩,
    ⟨"userId", .path, true, false, none, ["string"]⟩,
    ⟨"x-api-version", .header, true, false, none, ["string"]⟩,
    ⟨"tags", .query, false, true, none, ["array"]⟩]
  body := some ⟨true, none, ["application/json"]⟩

def shopInfo : Info := ⟨"Shop", "1", none⟩

def shopServers : List Server := [⟨"http://shop.test", none⟩]

def shopVersions : Versions := ⟨none, some "2"⟩

set_option maxRecDepth 4000 in
theorem exists_plan_ordersOperation :
    ∃ plan, ofOperation ordersOperation shopInfo shopServers shopVersions = .ok plan :=
  ⟨_, rfl⟩

end ApiCompiler.Plan
