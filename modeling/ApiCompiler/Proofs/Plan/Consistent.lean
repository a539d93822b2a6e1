import ApiCompiler.Proofs.Plan.Template

/-!
# Consistent operations

Segments are written into a path with names in braces and runs of slashes between. An operation
whose path is such a text, and whose path parameters are those of the segments, has a plan, and the
plan has the segments that the path was written from.
-/

namespace ApiCompiler

open Text

/-- A segment that nothing in a path can be mistaken for. -/
inductive Segment.Plain : Segment → Prop where
  | literal {value : String} (filled : value ≠ "") (unslashed : '/' ∉ value.toList)
      (unbraced : ¬HoldsBraces value.toList) : Plain (.literal value)
  | parameter {name : String} (filled : name ≠ "") (unslashed : '/' ∉ name.toList)
      (unbraced : name.toList.any isBrace = false)
      (unreserved : lowercased name ∉ ["x-api-version", "x-sdk-version", "x-app-version"]) :
      Plain (.parameter name (Naming.argumentName name))

theorem Segment.Plain.template_ne_nil {segment : Segment} (plain : segment.Plain) :
    segment.template ≠ [] := by
  cases plain with
  | literal filled => exact fun empty => filled (String.toList_eq_nil_iff.mp empty)
  | parameter => exact List.cons_ne_nil _ _

theorem Segment.Plain.slash_not_mem_template {segment : Segment} (plain : segment.Plain) :
    '/' ∉ segment.template := by
  cases plain with
  | literal _ unslashed => exact unslashed
  | parameter _ unslashed => simpa [template, Plan.braced] using unslashed

namespace Plan

/-- A text of pieces with slashes between, at least one after every piece but the last, and any
number at the ends. -/
inductive Joined : List (List Char) → List Char → Prop where
  | nothing : Joined [] []
  | last (piece : List Char) : Joined [piece] piece
  | slash {pieces : List (List Char)} {text : List Char} (joined : Joined pieces text) :
      Joined pieces ('/' :: text)
  | piece (piece : List Char) {pieces : List (List Char)} {text : List Char}
      (joined : Joined pieces text) : Joined (piece :: pieces) (piece ++ '/' :: text)

/-- Cutting at slashes finds the pieces again. -/
theorem filter_splitAt_of_joined {pieces : List (List Char)} {text : List Char}
    (joined : Joined pieces text) (filled : ∀ piece ∈ pieces, piece ≠ [])
    (unslashed : ∀ piece ∈ pieces, '/' ∉ piece) :
    (splitAt '/' text).filter (!·.isEmpty) = pieces := by
  have kept {piece : List Char} (filled : piece ≠ []) : (!piece.isEmpty) = true := by
    simpa using filled
  induction joined with
  | nothing => rfl
  | last piece =>
      rw [List.forall_mem_singleton] at filled unslashed
      rw [splitAt_eq_singleton unslashed, List.filter_cons, if_pos (kept filled), List.filter_nil]
  | slash joined induction =>
      rw [splitAt_cons_self, List.filter_cons_of_neg (by simp), induction filled unslashed]
  | piece piece joined induction =>
      rw [List.forall_mem_cons] at filled unslashed
      rw [splitAt_append_cons, splitAt_eq_singleton unslashed.1, List.singleton_append,
        List.filter_cons, if_pos (kept filled.1), induction filled.2 unslashed.2]

/-- An operation whose path is written from segments, with a required path parameter for each name
among them and no other, and with arguments that differ from each other and from the body. -/
structure Consistent (operation : Operation) (segments : List Segment) : Prop where
  plain : ∀ segment ∈ segments, segment.Plain
  distinct : (boundNames segments).Nodup
  path : Joined (segments.map Segment.template) operation.path.toList
  declared : ∀ name, name ∈ boundNames segments ↔
    ∃ parameter ∈ operation.parameters, parameter.location = .path ∧ parameter.name = name
  required : ∀ parameter ∈ operation.parameters, parameter.location = .path →
    parameter.required = true
  arguments : (argumentNames operation).Nodup
  apart : operation.body.isSome = true → bodyArgument ∉ argumentNames operation

namespace Consistent

variable {operation : Operation} {segments : List Segment}

theorem pathPieces_eq (consistent : Consistent operation segments) :
    pathPieces operation.path = segments.map Segment.template := by
  refine filter_splitAt_of_joined consistent.path ?_ ?_
  · rw [List.forall_mem_map]
    exact fun segment member => (consistent.plain segment member).template_ne_nil
  · rw [List.forall_mem_map]
    exact fun segment member => (consistent.plain segment member).slash_not_mem_template

/-- A name that is not reserved is found among the path parameters, beside its argument. -/
theorem exists_find?_eq_some (consistent : Consistent operation segments) {name : String}
    (bound : name ∈ boundNames segments)
    (unreserved : lowercased name ∉ ["x-api-version", "x-sdk-version", "x-app-version"]) :
    ∃ parameter, parameter.required = true ∧
      (withArguments (parametersAt .path operation)).find? (·.1.name == name) =
        some (parameter, Naming.argumentName name) := by
  obtain ⟨declared, member, atPath, named⟩ := (consistent.declared name).mp bound
  have explicit : declared ∈ explicitParameters operation := by
    refine List.mem_filter.mpr ⟨member, ?_⟩
    rw [Bool.not_eq_true', isReserved, named, ← Bool.not_eq_true, List.contains_iff_mem]
    exact unreserved
  have present : (declared, argumentOf declared) ∈ withArguments (parametersAt .path operation) :=
    List.mem_map_of_mem (mem_parametersAt.mpr ⟨explicit, atPath⟩)
  have some : ((withArguments (parametersAt .path operation)).find? (·.1.name == name)).isSome =
      true :=
    List.find?_isSome.mpr ⟨_, present, beq_iff_eq.mpr named⟩
  obtain ⟨found, first⟩ := Option.isSome_iff_exists.mp some
  have called := List.find?_some first
  obtain ⟨parameter, among, rfl⟩ := List.mem_map.mp (List.mem_of_find?_eq_some first)
  have own : parameter.name = name := eq_of_beq called
  obtain ⟨explicit, atPath⟩ := mem_parametersAt.mp among
  refine ⟨parameter, consistent.required parameter (List.mem_filter.mp explicit).1 atPath, ?_⟩
  rw [first, argumentOf, own]

/-- Each segment is that of the piece that it was written as. -/
theorem fills_template (consistent : Consistent operation segments) :
    ∀ segment ∈ segments,
      Fills (withArguments (parametersAt .path operation)) segment.template segment := by
  intro segment member
  cases consistent.plain segment member with
  | @literal value filled unslashed unbraced =>
      have whole : hasPlaceholder value.toList = false := by
        rw [← Bool.not_eq_true, hasPlaceholder_iff]
        exact unbraced
      have unnamed : placeholder? value.toList = none := by
        rw [Option.eq_none_iff_forall_ne_some]
        intro name named
        obtain ⟨-, plain, rest⟩ := placeholder?_eq_some_iff.mp named
        rcases rest with same | same
        · exact unbraced ⟨[], name.toList, [], by simpa [braced] using same, plain⟩
        · exact unbraced ⟨[], name.toList, ['\n'], by simpa [braced] using same, plain⟩
      have fills : Fills (withArguments (parametersAt .path operation)) value.toList
          (.literal (String.ofList value.toList)) := .literal unnamed whole
      rwa [String.ofList_toList] at fills
  | @parameter name filled unslashed unbraced unreserved =>
      obtain ⟨parameter, required, found⟩ :=
        consistent.exists_find?_eq_some (mem_boundNames.mpr ⟨_, member⟩) unreserved
      exact .parameter (placeholder?_eq_some_iff.mpr ⟨filled, unbraced, .inl rfl⟩) found required

/-- The path of a consistent operation is cut into the segments that it was written from. -/
theorem segmentsOf_eq (consistent : Consistent operation segments) :
    segmentsOf (withArguments (parametersAt .path operation)) operation.path = .ok segments := by
  refine segmentsOf_eq_ok_iff.mpr ⟨?_, consistent.distinct, ?_⟩
  · rw [consistent.pathPieces_eq, List.forall₂_map_left_iff, List.forall₂_same]
    exact consistent.fills_template
  · intro entry member
    obtain ⟨parameter, among, rfl⟩ := List.mem_map.mp member
    obtain ⟨explicit, atPath⟩ := mem_parametersAt.mp among
    exact (consistent.declared parameter.name).mpr
      ⟨parameter, (List.mem_filter.mp explicit).1, atPath, rfl⟩

end Consistent

/-- A consistent operation with an identifier and a server has a plan, and the segments of the plan
are those that its path was written from. -/
theorem exists_plan_of_consistent {operation : Operation} {segments : List Segment}
    (consistent : Consistent operation segments) {operationId : String}
    (identified : operation.operationId = some operationId) (filled : operationId ≠ "")
    {servers : List Server} (served : servers ≠ []) (info : Info) (versions : Versions) :
    ∃ plan, ofOperation operation info servers versions = .ok plan ∧
      plan.request.segments = segments := by
  obtain ⟨server, others, rfl⟩ := List.exists_cons_of_ne_nil served
  exact ⟨built operation operationId info server versions segments,
    ofOperation_eq_ok_iff.mpr ⟨operationId, server, others, segments, identified, filled, rfl,
      consistent.arguments, consistent.apart, consistent.segmentsOf_eq, rfl⟩, rfl⟩

/-- Segments with a lone brace and a line feed in a literal and a capital in a name. -/
def sprawlingSegments : List Segment :=
  [.literal "users", .parameter "userId" "user_id", .literal "a\n\x7dé\x7b", .literal "file.csv"]

/-- An operation whose path runs its slashes on, with a parameter that reports a version. -/
def sprawlingOperation : Operation where
  path := "//users///\x7buserId\x7d/a\n\x7dé\x7b/file.csv/"
  method := .put
  operationId := some "putFile"
  summary := none
  description := none
  parameters := [
    ⟨"tags", .query, false, true, none, ["array"]⟩,
    ⟨"X-SDK-Version", .header, true, false, none, ["string"]⟩,
    ⟨"userId", .path, true, false, none, ["string"]⟩,
    ⟨"X-Request-ID", .header, false, false, none, ["string"]⟩]
  body := some ⟨true, none, ["text/csv"]⟩

theorem joined_sprawlingOperation :
    Joined (sprawlingSegments.map Segment.template) sprawlingOperation.path.toList := by
  have users : Joined _ _ := .piece "users".toList (.slash (.slash (.piece (braced "userId".toList)
    (.piece "a\n\x7dé\x7b".toList (.piece "file.csv".toList .nothing)))))
  exact .slash (.slash users)

theorem consistent_sprawlingOperation : Consistent sprawlingOperation sprawlingSegments where
  plain := by
    have unbraced : ¬HoldsBraces "a\n\x7dé\x7b".toList := by
      rw [← hasPlaceholder_iff]
      decide
    have others : ∀ name ∈ ["users".toList, "file.csv".toList], ¬HoldsBraces name := by
      simp only [← hasPlaceholder_iff]
      decide
    simp only [sprawlingSegments, List.forall_mem_cons]
    exact ⟨.literal (by decide) (by decide) (others _ (by simp)),
      .parameter (by decide) (by decide) (by decide) (by decide),
      .literal (by decide) (by decide) unbraced,
      .literal (by decide) (by decide) (others _ (by simp)), nofun⟩
  distinct := by decide
  path := joined_sprawlingOperation
  declared := by simp [sprawlingSegments, sprawlingOperation, eq_comm]
  required := by decide
  arguments := by decide
  apart := by decide

theorem exists_plan_of_consistent_sprawlingOperation :
    ∃ plan, ofOperation sprawlingOperation shopInfo shopServers shopVersions = .ok plan ∧
      plan.request.segments = sprawlingSegments :=
  exists_plan_of_consistent consistent_sprawlingOperation rfl (by decide) (by decide) _ _

end Plan

end ApiCompiler
