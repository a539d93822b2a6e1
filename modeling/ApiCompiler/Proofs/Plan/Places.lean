import ApiCompiler.Proofs.Plan.Operation

/-!
# Places of arguments

Where the request of a plan takes values from arguments: at segments of its path, at query entries
and at headers. Each part of a plan fills its places from the parameters of one location.
-/

namespace ApiCompiler.Plan

/-- A place of a request that takes its value from an argument. -/
inductive Place where
  | segment (name : String)
  | query (key : String)
  | header (key : String)
deriving Repr, DecidableEq

/-- The place that a parameter has by its location. -/
def placeOf (parameter : Parameter) : Place :=
  match parameter.location with
  | .path => .segment parameter.name
  | .query => .query parameter.name
  | .header => .header parameter.name

/-- The names and arguments of the segments that are filled. -/
def filledSegments (segments : List Segment) : List (String × String) :=
  segments.filterMap fun
    | .parameter name argument => some (name, argument)
    | .literal _ => none

/-- The keys and arguments of the headers that take their value from an argument. -/
def filledHeaders (headers : List HeaderBinding) : List (String × String) :=
  headers.filterMap fun binding => match binding.source with
    | .argument argument => some (binding.key, argument)
    | .constant _ => none

/-- All places of a request, each with the argument that fills it. -/
def filledPlaces (request : RequestPlan) : List (Place × String) :=
  (filledSegments request.segments).map (fun entry => (.segment entry.1, entry.2)) ++
    request.query.map (fun binding => (.query binding.key, binding.argument)) ++
    (filledHeaders request.headers).map fun entry => (.header entry.1, entry.2)

/-- The places that an argument fills. -/
def placesOf (request : RequestPlan) (argument : String) : List Place :=
  ((filledPlaces request).filter (·.2 == argument)).map (·.1)

theorem mem_placesOf {request : RequestPlan} {argument : String} {place : Place} :
    place ∈ placesOf request argument ↔ (place, argument) ∈ filledPlaces request := by
  simp [placesOf]

theorem mem_filledSegments {segments : List Segment} {name argument : String} :
    (name, argument) ∈ filledSegments segments ↔ Segment.parameter name argument ∈ segments := by
  simp only [filledSegments, List.mem_filterMap]
  constructor
  · rintro ⟨segment, member, filled⟩
    cases segment with
    | literal value => simp at filled
    | parameter other source =>
        obtain ⟨rfl, rfl⟩ := Prod.mk.inj (Option.some.inj filled)
        exact member
  · exact fun member => ⟨_, member, rfl⟩

theorem map_fst_filledSegments (segments : List Segment) :
    (filledSegments segments).map (·.1) = boundNames segments := by
  rw [filledSegments, boundNames, List.map_filterMap]
  congr 1
  funext segment
  cases segment <;> rfl

@[simp] theorem filledHeaders_versionBinding (key : String) (version : Option String) :
    filledHeaders (versionBinding key version) = [] := by
  unfold versionBinding
  split <;> rfl

theorem filledHeaders_headerBindings (parameters : List Parameter) (info : Info)
    (versions : Versions) :
    filledHeaders (headerBindings (withArguments parameters) info versions) =
      (parameters.filter (·.location == .header)).map fun parameter =>
        (parameter.name, argumentOf parameter) := by
  have atHeader := withArguments_filter (·.location == .header) parameters
  have own (bindings : List Parameter) :
      filledHeaders ((withArguments bindings).map fun bound =>
          ⟨bound.1.name, .argument bound.2⟩) =
        bindings.map fun parameter => (parameter.name, argumentOf parameter) := by
    simp [filledHeaders, withArguments, List.filterMap_map, Function.comp_def]
  have split (left right : List HeaderBinding) :
      filledHeaders (left ++ right) = filledHeaders left ++ filledHeaders right :=
    List.filterMap_append
  rw [headerBindings, atHeader, List.cons_append, split, ← List.singleton_append, split, split, own]
  simp only [filledHeaders_versionBinding, List.append_nil]
  rfl

theorem queryBindings_withArguments (parameters : List Parameter) :
    queryBindings (withArguments parameters) =
      (parameters.filter (·.location == .query)).map fun parameter =>
        ⟨parameter.name, argumentOf parameter, parameter.ordered⟩ := by
  have atQuery := withArguments_filter (·.location == .query) parameters
  rw [queryBindings, atQuery]
  simp [withArguments]

/-- A list in which a key is found once holds one entry under it. -/
theorem filter_eq_singleton {entries : List (Place × String)} {place : Place} {argument : String}
    (distinct : (entries.map (·.2)).Nodup) (member : (place, argument) ∈ entries) :
    entries.filter (·.2 == argument) = [(place, argument)] := by
  induction entries with
  | nil => simp at member
  | cons entry entries induction =>
      rw [List.map_cons, List.nodup_cons] at distinct
      rcases List.mem_cons.mp member with rfl | later
      · have others : entries.filter (·.2 == argument) = [] := by
          rw [List.filter_eq_nil_iff]
          intro other present same
          rw [beq_iff_eq] at same
          exact distinct.1 (List.mem_map.mpr ⟨other, present, same⟩)
        simp [others]
      · have differs : entry.2 ≠ argument := by
          rintro rfl
          exact distinct.1 (List.mem_map.mpr ⟨_, later, rfl⟩)
        simp [differs, induction distinct.2 later]

end ApiCompiler.Plan
