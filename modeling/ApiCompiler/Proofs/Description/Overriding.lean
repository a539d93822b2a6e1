import ApiCompiler.Proofs.Description.Stumbling
import ApiCompiler.Proofs.Value.Entries

/-!
# Parameters of paths and operations

The parameters of an operation stand behind those of its path. One of the path gives way to one of
the operation with the same name and location as written. A location that is left out counts as the
query only when the parameter is read, so the rule that an operation's parameters override those of
its path holds exactly where both readings of a location agree.
-/

namespace ApiCompiler.Description

open Checked Logged Outcome Shape

def nameOf (parameter : Fields) : Value :=
  getOr parameter "name" (.str "")

/-- Where a parameter is sent: in the query if it does not say. -/
def placeOf (parameter : Fields) : Value :=
  getOr parameter "in" (.str "query")

/-- Requests have a place for a parameter. -/
def isSent (parameter : Fields) : Bool :=
  (locationOf (placeOf parameter)).isSome

/-- What tells parameters apart once they are read. -/
def keyOf (parameter : Fields) : Value × Value :=
  (nameOf parameter, placeOf parameter)

/-- A parameter has the name of another one and is sent where that is. -/
def overrides (other parameter : Fields) : Bool :=
  (nameOf other).sameKey (nameOf parameter) && (placeOf other).sameKey (placeOf parameter)

/-- A parameter has the name of another one and its location is written as that of the other one
is. -/
def replaces (other parameter : Fields) : Bool :=
  (identity other).sameKey (identity parameter)

/-- The rule: the parameters of a path that none of the operation overrides, and then those of the
operation. -/
def overridden (shared own : List Fields) : List Fields :=
  shared.filter (fun parameter => !own.any (overrides · parameter)) ++ own

/-- Parameters whose names are texts. -/
def AreNamed (parameters : List Fields) : Prop :=
  ∀ parameter ∈ parameters, ∃ name, nameOf parameter = .str name

theorem locationName_of_ofName? {name : String} {location : Location}
    (found : Location.ofName? name = some location) : location.name = name := by
  obtain ⟨entry, searched, rfl⟩ := Option.map_eq_some_iff.mp found
  have same : entry.1 = name := by simpa using List.find?_some searched
  have listed : ∀ entry ∈ Location.named, entry.2.name = entry.1 := by decide
  rw [listed entry (List.mem_of_find?_eq_some searched), same]

theorem eq_of_locationOf {place : Value} {location : Location}
    (sent : locationOf place = some location) :
    place = .str location.name := by
  obtain ⟨text, written, found⟩ := Option.bind_eq_some_iff.mp sent
  cases place with
  | str name =>
      obtain rfl := Option.some.inj written
      rw [locationName_of_ofName? found]
  | _ => cases written

/-- A parameter is read from its fields, as one that is sent at its location. -/
def ReadAs (fields : Fields) (parameter : Parameter) : Prop :=
  ∃ location, locationOf (placeOf fields) = some location ∧
    extractSent location fields = .ok parameter

theorem extractParameters_cons_eq_ok_iff {first : Fields} {others : List Fields}
    {parameters : List Parameter} :
    (extractParameters (first :: others)).result = .ok parameters ↔
      ∃ read rest, (extractParameter first).result = .ok read ∧
        (extractParameters others).result = .ok rest ∧ parameters = read.toList ++ rest := by
  simp only [extractParameters, result_bind, result_mapM, result_pure, List.mapM_cons, bind_eq_ok,
    Except.ok.injEq]
  constructor
  · rintro ⟨_, ⟨read, own, rest, each, rfl⟩, rfl⟩
    exact ⟨read, _, own, ⟨rest, each, rfl⟩, by cases read <;> rfl⟩
  · rintro ⟨read, _, own, ⟨rest, each, rfl⟩, rfl⟩
    exact ⟨read :: rest, ⟨read, own, rest, each, rfl⟩, by cases read <;> rfl⟩

/-- The parameters that are read are those that are sent, in their order. -/
theorem extractParameters_eq_ok_iff {fields : List Fields} {parameters : List Parameter} :
    (extractParameters fields).result = .ok parameters ↔
      List.Forall₂ ReadAs (fields.filter isSent) parameters := by
  induction fields generalizing parameters with
  | nil =>
      rw [List.filter_nil, List.forall₂_nil_left_iff]
      exact (Except.ok.injEq ..).to_iff.trans eq_comm
  | cons first fields induction =>
      rw [extractParameters_cons_eq_ok_iff]
      by_cases sent : isSent first
      · obtain ⟨location, found⟩ := Option.isSome_iff_exists.mp sent
        simp only [List.filter_cons_of_pos sent, List.forall₂_cons_left_iff, induction,
          result_extractParameter_of_sent found, map_eq_ok]
        constructor
        · rintro ⟨_, rest, ⟨read, done, rfl⟩, each, rfl⟩
          exact ⟨read, rest, ⟨location, found, done⟩, each, rfl⟩
        · rintro ⟨read, rest, ⟨other, same, done⟩, each, rfl⟩
          obtain rfl := Option.some.inj (found.symm.trans same)
          exact ⟨some read, rest, ⟨read, done, rfl⟩, each, rfl⟩
      · simp only [List.filter_cons_of_neg sent, induction,
          result_extractParameter_of_not_sent sent, Except.ok.injEq]
        constructor
        · rintro ⟨_, rest, rfl, each, rfl⟩
          exact each
        · exact fun each => ⟨none, parameters, rfl, each, rfl⟩

/-- The name and the location of a parameter are those of its fields. -/
theorem key_of_readAs {fields : Fields} {parameter : Parameter} {name : String}
    (named : nameOf fields = .str name) (read : ReadAs fields parameter) :
    nameOf fields = .str parameter.name ∧ placeOf fields = .str parameter.location.name := by
  obtain ⟨location, sent, extracted⟩ := read
  obtain ⟨types, -, built⟩ := bind_eq_ok.mp extracted
  have fits := orFail_eq_ok.mp built
  simp only [seq_eq_fits, map_eq_fits, below_eq_fits] at fits
  -- The record is filled field after field; the last ones are peeled off first.
  obtain ⟨_, _, fits, -, rfl⟩ := fits
  obtain ⟨_, _, fits, -, rfl⟩ := fits
  obtain ⟨_, _, fits, -, rfl⟩ := fits
  obtain ⟨_, _, fits, -, rfl⟩ := fits
  obtain ⟨_, _, fits, ⟨⟩, rfl⟩ := fits
  obtain ⟨_, written, rfl⟩ := fits
  refine ⟨?_, eq_of_locationOf sent⟩
  change text (nameOf fields) = _ at written
  rw [named] at written ⊢
  obtain rfl := Checked.fits.inj written
  rfl

/-- Named parameters look like what is read from them. -/
theorem map_keyOf_of_readAs {fields : List Fields} {parameters : List Parameter}
    (named : AreNamed fields)
    (read : List.Forall₂ ReadAs fields parameters) :
    fields.map keyOf =
      parameters.map fun parameter => (.str parameter.name, .str parameter.location.name) := by
  induction read with
  | nil => rfl
  | cons own _ induction =>
      obtain ⟨⟨name, called⟩, others⟩ := List.forall_mem_cons.mp named
      obtain ⟨same, placed⟩ := key_of_readAs called own
      rw [List.map_cons, List.map_cons, induction others, keyOf, same, placed]

/-- A choice that does not tell apart what looks the same agrees with another choice from the same
list wherever what is chosen looks the same in both. -/
theorem eq_of_map_filter_eq {α β : Type} {look : α → β} {first second : α → Bool} {items : List α}
    (blind : ∀ item ∈ items, ∀ other ∈ items, look item = look other → second item = second other)
    (same : (items.filter first).map look = (items.filter second).map look) :
    ∀ item ∈ items, first item = second item := by
  classical
  intro item member
  -- Only what looks like the item counts: the second choice takes all of it or nothing.
  let alike := items.filter fun other => look other = look item
  have counts : (alike.filter first).length = (alike.filter second).length := by
    have count (choice : α → Bool) : (alike.filter choice).length =
        ((items.filter choice).map look).countP (· = look item) := by
      rw [List.countP_map, List.countP_eq_length_filter, List.filter_comm]
      rfl
    rw [count, count, same]
  have itself : item ∈ alike := List.mem_filter.mpr ⟨member, by simp⟩
  have uniform : ∀ other ∈ alike, second other = second item := by
    intro other held
    obtain ⟨listed, looks⟩ := List.mem_filter.mp held
    exact blind other listed item member (by simpa using looks)
  cases taken : second item with
  | true =>
      have all : alike.filter second = alike :=
        List.filter_eq_self.mpr fun other held => (uniform other held).trans taken
      rw [all, List.length_filter_eq_length_iff] at counts
      exact counts item itself
  | false =>
      have none : alike.filter second = [] :=
        List.filter_eq_nil_iff.mpr fun other held => by simp [uniform other held, taken]
      rw [none, List.length_nil, List.length_eq_zero_iff, List.filter_eq_nil_iff] at counts
      simpa using counts item itself

theorem overrides_congr {parameter another : Fields} (same : keyOf parameter = keyOf another) :
    (overrides · parameter) = (overrides · another) := by
  obtain ⟨names, places⟩ := Prod.mk.inj same
  funext other
  rw [overrides, names, places, overrides]

theorem identity_of_said {parameter : Fields} (said : Value.field? parameter "in" ≠ none) :
    identity parameter = .tuple [nameOf parameter, placeOf parameter] := by
  obtain ⟨location, written⟩ := Option.ne_none_iff_exists'.mp said
  rw [identity, nameOf, placeOf, getOr, getOr, getOr, written]
  rfl

/-- Where both say where they are sent, a parameter replaces another one as the rule has it. -/
theorem replaces_eq_overrides {other parameter : Fields} (told : Value.field? other "in" ≠ none)
    (said : Value.field? parameter "in" ≠ none) :
      replaces other parameter = overrides other parameter := by
  rw [replaces, identity_of_said told, identity_of_said said, overrides]
  simp [Value.sameKey, Value.sameKeys]

section Lists

variable {shared own : List Fields}

theorem filter_isSent_merged_eq (agree : ∀ parameter ∈ shared, isSent parameter = true →
      own.any (overrides · parameter) = own.any (replaces · parameter)) :
    (merged shared own).filter isSent = (overridden shared own).filter isSent := by
  rw [merged, overridden, List.filter_append, List.filter_append, List.filter_filter,
    List.filter_filter]
  congr 1
  refine List.filter_congr fun parameter member => ?_
  cases sent : isSent parameter with
  | false => rfl
  | true =>
      rw [Bool.true_and, Bool.true_and, agree parameter member sent]
      rfl

theorem areNamed_filter (named : AreNamed (shared ++ own)) (choice : Fields → Bool) :
    AreNamed ((shared.filter choice ++ own).filter isSent) := by
  have kept : shared.filter choice ++ own ⊆ shared ++ own :=
    List.append_subset.mpr
      ⟨List.Subset.trans (List.filter_subset_self _) (List.subset_append_left ..),
      List.subset_append_right ..⟩
  exact fun parameter member => named parameter (kept (List.mem_of_mem_filter member))

theorem agree_of_readAs {parameters : List Parameter} (named : AreNamed (shared ++ own))
    (read : List.Forall₂ ReadAs ((merged shared own).filter isSent) parameters)
    (again : List.Forall₂ ReadAs ((overridden shared own).filter isSent) parameters) :
    ∀ parameter ∈ shared, isSent parameter = true →
      own.any (overrides · parameter) = own.any (replaces · parameter) := by
  intro parameter member sent
  have keys := (map_keyOf_of_readAs (areNamed_filter named _) read).trans
    (map_keyOf_of_readAs (areNamed_filter named _) again).symm
  rw [List.filter_append, List.filter_append, List.map_append, List.map_append,
    List.append_left_inj, List.filter_comm, List.filter_comm isSent] at keys
  have agree :=
    eq_of_map_filter_eq (fun first _ second _ alike => by rw [overrides_congr alike]) keys
    parameter (List.mem_filter.mpr ⟨member, sent⟩)
  exact (Bool.not_inj agree).symm

end Lists

/-- What is read of the parameters of an operation and its path: those that are not replaced. These
are what the rule asks for exactly where the parameters of the path that are sent are replaced as
the rule has it, so wherever all parameters say where they are sent. -/
structure AreMerged (shared own : List Fields) (parameters : List Parameter) : Prop where
  read : List.Forall₂ ReadAs
    ((shared.filter (fun parameter => !own.any (replaces · parameter)) ++
      own).filter isSent) parameters
  rule : List.Forall₂ ReadAs ((overridden shared own).filter isSent) parameters ↔
    ∀ parameter ∈ shared, isSent parameter = true →
      own.any (overrides · parameter) = own.any (replaces · parameter)
  said : (∀ parameter ∈ shared ++ own, Value.field? parameter "in" ≠ none) →
    List.Forall₂ ReadAs ((overridden shared own).filter isSent) parameters

theorem areMerged_of_readAs {shared own : List Fields} {parameters : List Parameter}
    (named : AreNamed (shared ++ own))
    (read : List.Forall₂ ReadAs ((merged shared own).filter isSent) parameters) :
    AreMerged shared own parameters := by
  have rule : List.Forall₂ ReadAs ((overridden shared own).filter isSent) parameters ↔
      ∀ parameter ∈ shared, isSent parameter = true →
        own.any (overrides · parameter) = own.any (replaces · parameter) :=
    ⟨agree_of_readAs named read, fun agree => filter_isSent_merged_eq agree ▸ read⟩
  refine ⟨read, rule, fun said => rule.mpr fun parameter member _ => ?_⟩
  obtain ⟨ofShared, ofOwn⟩ := List.forall_mem_append.mp said
  rw [Bool.eq_iff_iff, List.any_eq_true, List.any_eq_true]
  refine exists_congr fun other => and_congr_right fun held => ?_
  rw [replaces_eq_overrides (ofOwn other held) (ofShared parameter member)]

/-- The parameters of an operation are read from those that are listed for its path and for
itself. -/
theorem parameters_of_extractOperation {path : Value} {shared : List Fields} {method : Method}
    {fields : Fields} {operation : Operation}
    (extracted : (extractOperation path shared method fields).result = .ok operation) :
    ∃ own, Lists (get fields "parameters") own ∧
      List.Forall₂ ReadAs ((merged shared own).filter isSent) operation.parameters := by
  simp only [extractOperation, result_bind, result_liftM, bind_eq_ok, parameterList_eq_ok_iff,
    mergeParameters_eq_ok_iff, extractParameters_eq_ok_iff] at extracted
  obtain ⟨_, -, own, lists, _, ⟨-, rfl⟩, parameters, read, _, -, built⟩ := extracted
  have fits := orFail_eq_ok.mp built
  simp only [seq_eq_fits, map_eq_fits] at fits
  -- The record is filled field after field; the last ones are peeled off first.
  obtain ⟨_, _, fits, -, rfl⟩ := fits
  obtain ⟨_, _, fits, ⟨⟩, rfl⟩ := fits
  obtain ⟨_, _, fits, -, rfl⟩ := fits
  obtain ⟨_, _, fits, -, rfl⟩ := fits
  obtain ⟨_, _, fits, -, rfl⟩ := fits
  obtain ⟨_, _, fits, -, rfl⟩ := fits
  obtain ⟨_, -, rfl⟩ := fits
  exact ⟨own, lists, read⟩

/-- The parameters of each operation of a document are merged from those of its path and its own. -/
theorem areMerged_of_extractOperations {paths : Fields} {operations : List Operation}
    (extracted : (extractOperations (.map paths)).result = .ok operations) :
    List.Forall₂ (fun site operation => ∃ shared own,
      Lists (get site.item "parameters") shared ∧ Lists (get site.fields "parameters") own ∧
        (AreNamed (shared ++ own) → AreMerged shared own operation.parameters))
      (sitesOf paths) operations := by
  obtain ⟨entries, same, each⟩ := forall₂_readAt_of_extractOperations extracted
  obtain rfl := Value.map.inj same
  refine each.imp fun site operation read => ?_
  obtain ⟨shared, listed, made⟩ := read.read
  obtain ⟨own, lists, sent⟩ := parameters_of_extractOperation made
  exact ⟨shared, own, parameterList_eq_ok_iff.mp listed, lists,
    fun named => areMerged_of_readAs named sent⟩

/-- Parameters of a path: one in it, one in the query, and one that cannot be sent. -/
def pageShared : List Fields := [
  [(.str "name", .str "id"), (.str "in", .str "path")],
  [(.str "name", .str "limit"), (.str "in", .str "query")],
  [(.str "name", .str "session"), (.str "in", .str "cookie")]]

/-- Parameters of an operation: one in place of that in the query, and one of the same name
elsewhere. -/
def pageOwn : List Fields := [
  [(.str "name", .str "id"), (.str "in", .str "header")],
  [(.str "name", .str "limit"), (.str "in", .str "query"), (.str "required", .bool true)]]

def pathsOf (shared own : List Fields) : Fields := [
  (.str "/pages/\x7bid\x7d", .map [
    (.str "parameters", .list (shared.map .map)),
    (.str "get", .map [(.str "parameters", .list (own.map .map))])])]

theorem areMerged_of_extractOperations_page :
    ∃ operation, (extractOperations (.map (pathsOf pageShared pageOwn))).result = .ok [operation] ∧
      operation.parameters = [
        ⟨"id", .path, true, false, none, ["string"]⟩,
        ⟨"id", .header, false, false, none, ["string"]⟩,
        ⟨"limit", .query, true, false, none, ["string"]⟩] ∧
      AreMerged pageShared pageOwn operation.parameters ∧
      List.Forall₂ ReadAs ((overridden pageShared pageOwn).filter isSent) operation.parameters := by
  have extracted : (extractOperations (.map (pathsOf pageShared pageOwn))).result = .ok [
      ⟨"/pages/\x7bid\x7d", .get, none, none, none, [
        ⟨"id", .path, true, false, none, ["string"]⟩,
        ⟨"id", .header, false, false, none, ["string"]⟩,
        ⟨"limit", .query, true, false, none, ["string"]⟩], none⟩] :=
    toOption_eq_some.mp (by decide +kernel)
  have named : AreNamed (pageShared ++ pageOwn) := by
    simp [AreNamed, pageShared, pageOwn, nameOf, getOr]
  have said : ∀ parameter ∈ pageShared ++ pageOwn, Value.field? parameter "in" ≠ none := by
    simp [pageShared, pageOwn, Value.field?_cons_of_ne]
  obtain ⟨⟨shared, own, listed, lists, read⟩, -⟩ :=
    List.forall₂_cons.mp (areMerged_of_extractOperations extracted)
  obtain rfl : shared = pageShared := listed.unique (.list rfl)
  obtain rfl : own = pageOwn := lists.unique (.list rfl)
  exact ⟨_, extracted, rfl, read named, (read named).said said⟩

/-- A parameter of an operation that leaves out the query overrides one of its path that says so,
and yet both are read. -/
theorem unsaid_query_replaces_nothing :
    overrides [(.str "name", .str "limit"), (.str "required", .bool true)]
        [(.str "name", .str "limit"), (.str "in", .str "query")] = true ∧
      (extractOperations (.map (pathsOf [[(.str "name", .str "limit"), (.str "in", .str "query")]]
        [[(.str "name", .str "limit"), (.str "required", .bool true)]]))).result =
        .ok [⟨"/pages/\x7bid\x7d", .get, none, none, none, [
          ⟨"limit", .query, false, false, none, ["string"]⟩,
          ⟨"limit", .query, true, false, none, ["string"]⟩], none⟩] :=
  ⟨by decide +kernel, toOption_eq_some.mp (by decide +kernel)⟩

end ApiCompiler.Description
