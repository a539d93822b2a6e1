import ApiCompiler.Proofs.Call.HeaderArguments
import ApiCompiler.Proofs.Call.Query
import ApiCompiler.Proofs.Plan.WellFormed

/-!
# Isolated arguments

Two calls whose arguments differ under one key make requests that differ only where that argument
belongs: at the address, at one query entry, at the headers of one name or at the body. What lies
elsewhere, its order included, is the same in both.
-/

namespace ApiCompiler.Call

open Outcome Plan Value

/-- Entries with the same keys in the same order, and with the same values but under some names. -/
def DifferWithin (may : String → Prop) : Entries → Entries → Prop :=
  List.Forall₂ fun one other =>
    one.1 = other.1 ∧ (one.2 = other.2 ∨ ∃ name, one.1 = .str name ∧ may name)

namespace DifferWithin

variable {may : String → Prop} {left right : Entries}

theorem refl (entries : Entries) : DifferWithin may entries entries := by
  induction entries with
  | nil => exact .nil
  | cons entry entries induction => exact .cons ⟨rfl, Or.inl rfl⟩ induction

theorem eq (differ : DifferWithin may left right) (none : ∀ name, ¬may name) : left = right := by
  induction differ with
  | nil => rfl
  | cons own _ induction =>
      obtain ⟨key, value | ⟨name, -, named⟩⟩ := own
      · rw [Prod.ext key value, induction]
      · exact absurd named (none name)

theorem append {moreLeft moreRight : Entries} (differ : DifferWithin may left right)
    (more : DifferWithin may moreLeft moreRight) :
    DifferWithin may (left ++ moreLeft) (right ++ moreRight) :=
  List.rel_append differ more

/-- Setting a key on both sides keeps the keys alike. -/
theorem insert (differ : DifferWithin may left right) {key value other : Value}
    (own : value = other ∨ ∃ name, key = .str name ∧ may name) :
    DifferWithin may (Value.insert left key value) (Value.insert right key other) := by
  induction differ with
  | nil => exact .cons ⟨rfl, own⟩ .nil
  | @cons one two left right first rest induction =>
      rw [Value.insert, Value.insert, ← first.1]
      split
      · rename_i same
        refine .cons ⟨rfl, own.imp_right ?_⟩ rest
        rintro ⟨name, rfl, named⟩
        exact ⟨name, sameKey_str_right.mp same, named⟩
      · exact .cons first induction

/-- Setting the entries of two mappings that differ within some names. -/
theorem foldl_insert {moreLeft moreRight : Entries} (more : DifferWithin may moreLeft moreRight)
    (differ : DifferWithin may left right) :
    DifferWithin may (moreLeft.foldl (fun built entry => Value.insert built entry.1 entry.2) left)
      (moreRight.foldl (fun built entry => Value.insert built entry.1 entry.2) right) := by
  induction more generalizing left right with
  | nil => exact differ
  | @cons one two _ _ first _ induction =>
      rw [List.foldl_cons, List.foldl_cons, ← first.1]
      exact induction (differ.insert first.2)

/-- Where all that may differ is left out, nothing differs. -/
theorem filter_eq (differ : DifferWithin may left right) {keeps : Value × Value → Bool}
    (drops : ∀ name value, may name → keeps (.str name, value) = false) :
    left.filter keeps = right.filter keeps := by
  induction differ with
  | nil => rfl
  | @cons one two _ _ own _ induction =>
      obtain ⟨key, value⟩ := one
      obtain ⟨otherKey, other⟩ := two
      obtain ⟨rfl, rfl | ⟨name, rfl, named⟩⟩ := own
      · rw [List.filter_cons, List.filter_cons, induction]
      · rw [List.filter_cons_of_neg (by simp [drops name value named]),
          List.filter_cons_of_neg (by simp [drops name other named]), induction]

/-- What is kept by its key alone is kept on both sides. -/
theorem filter {keepsLeft keepsRight : Value × Value → Bool} (differ : DifferWithin may left right)
    (agree : ∀ one ∈ left, ∀ other ∈ right, one.1 = other.1 → keepsLeft one = keepsRight other) :
    DifferWithin may (left.filter keepsLeft) (right.filter keepsRight) := by
  induction differ with
  | nil => exact .nil
  | @cons one two left right own _ induction =>
      have rest := induction fun entry member other present =>
        agree entry (List.mem_cons_of_mem _ member) other (List.mem_cons_of_mem _ present)
      rw [List.filter_cons, List.filter_cons,
        agree one List.mem_cons_self two List.mem_cons_self own.1]
      split
      · exact .cons own rest
      · exact rest

/-- A header that is added drops others by their names only. -/
theorem addHeader {one other : Value × Value} {afterLeft afterRight : Entries}
    (differ : DifferWithin may left right)
    (own : one.1 = other.1 ∧ (one.2 = other.2 ∨ ∃ name, one.1 = .str name ∧ may name))
    (addedLeft : Call.addHeader left one = .ok afterLeft)
    (addedRight : Call.addHeader right other = .ok afterRight) :
    DifferWithin may afterLeft afterRight := by
  have last : DifferWithin may [one] [other] := .cons own .nil
  cases differ with
  | nil =>
      rw [← Except.ok.inj addedLeft, ← Except.ok.inj addedRight]
      exact last
  | cons first rest =>
      rename_i head second lefts rights
      obtain ⟨folded, lower, addedLeft⟩ := bind_eq_ok.mp
        (show foldedName one.1 >>= _ = Except.ok afterLeft from addedLeft)
      obtain ⟨again, same, addedRight⟩ := bind_eq_ok.mp
        (show foldedName other.1 >>= _ = Except.ok afterRight from addedRight)
      rw [← own.1, lower] at same
      obtain rfl := Except.ok.inj same
      obtain ⟨keptLeft, filteredLeft, doneLeft⟩ := bind_eq_ok.mp addedLeft
      obtain ⟨keptRight, filteredRight, doneRight⟩ := bind_eq_ok.mp addedRight
      rw [← Except.ok.inj doneLeft, ← Except.ok.inj doneRight]
      obtain ⟨keepsLeft, agreesLeft, rfl⟩ := exists_filter_of_filterM filteredLeft
      obtain ⟨keepsRight, agreesRight, rfl⟩ := exists_filter_of_filterM filteredRight
      refine append (filter (.cons first rest) fun entry member entry' member' key => ?_) last
      have here := agreesLeft entry member
      rw [key, agreesRight entry' member'] at here
      exact (Except.ok.inj here).symm

theorem foldlM_addHeader {moreLeft moreRight afterLeft afterRight : Entries}
    (more : DifferWithin may moreLeft moreRight) (differ : DifferWithin may left right)
    (addedLeft : moreLeft.foldlM Call.addHeader left = .ok afterLeft)
    (addedRight : moreRight.foldlM Call.addHeader right = .ok afterRight) :
    DifferWithin may afterLeft afterRight := by
  induction more generalizing left right with
  | nil =>
      rw [← Except.ok.inj addedLeft, ← Except.ok.inj addedRight]
      exact differ
  | cons own _ induction =>
      rw [List.foldlM_cons, bind_eq_ok] at addedLeft addedRight
      obtain ⟨nextLeft, firstLeft, restLeft⟩ := addedLeft
      obtain ⟨nextRight, firstRight, restRight⟩ := addedRight
      exact induction (differ.addHeader own firstLeft firstRight) restLeft restRight

end DifferWithin

/-- Arguments that differ at most under one key. -/
def AgreeExcept (key : Value) (left right : Entries) : Prop :=
  ∀ name, .str name ≠ key → field? left name = field? right name

/-- A name that one of some parameters has whose argument is called by a key. -/
def NamedBy (key : Value) (parameters : List Parameter) (name : String) : Prop :=
  ∃ parameter ∈ parameters, parameter.name = name ∧ key = .str (argumentOf parameter)

namespace AgreeExcept

variable {key : Value} {left right : Entries}

theorem entry_eq (agree : AgreeExcept key left right) {name : String} (other : .str name ≠ key) :
    entry left name = entry right name := by
  rw [entry, entry, agree name other]

/-- Arguments of calls agree as what was given does. -/
theorem taken (agree : AgreeExcept key left right) (plan : Plan) :
    AgreeExcept key (if plan.takesParameters then left else [])
      (if plan.takesParameters then right else []) := by
  split
  · exact agree
  · exact fun _ _ => rfl

/-- An argument that fills no segment does not reach the address. -/
theorem urlOf_eq (agree : AgreeExcept key left right) {request : RequestPlan}
    (apart : ∀ name argument, Segment.parameter name argument ∈ request.segments →
      .str argument ≠ key) :
    urlOf request left = urlOf request right := by
  have same : ∀ segment ∈ request.segments,
      segmentText left segment = segmentText right segment := by
    intro segment member
    cases segment with
    | literal value => rfl
    | parameter name argument =>
        rw [segmentText, segmentText, agree argument (apart name argument member)]
  rw [urlOf, urlOf, mapM_congr same]

/-- The queries differ under the keys that the argument is bound to. -/
theorem foldlM_bindQuery {may : String → Prop} (agree : AgreeExcept key left right)
    {functions : List String} {bindings : List QueryBinding}
    (bound : ∀ binding ∈ bindings, .str binding.argument ≠ key ∨ may binding.key)
    {queryLeft queryRight afterLeft afterRight : Entries}
    (differ : DifferWithin may queryLeft queryRight)
    (doneLeft : bindings.foldlM (bindQuery functions left) queryLeft = .ok afterLeft)
    (doneRight : bindings.foldlM (bindQuery functions right) queryRight = .ok afterRight) :
    DifferWithin may afterLeft afterRight := by
  induction bindings generalizing queryLeft queryRight with
  | nil =>
      rw [← Except.ok.inj doneLeft, ← Except.ok.inj doneRight]
      exact differ
  | cons binding bindings induction =>
      obtain ⟨own, others⟩ := List.forall_mem_cons.mp bound
      rw [List.foldlM_cons, bind_eq_ok] at doneLeft doneRight
      obtain ⟨nextLeft, firstLeft, restLeft⟩ := doneLeft
      obtain ⟨nextRight, firstRight, restRight⟩ := doneRight
      obtain ⟨valueLeft, madeLeft, setLeft⟩ := bind_eq_ok.mp firstLeft
      obtain ⟨valueRight, madeRight, setRight⟩ := bind_eq_ok.mp firstRight
      rw [← Except.ok.inj setLeft] at restLeft
      rw [← Except.ok.inj setRight] at restRight
      refine induction others (differ.insert ?_) restLeft restRight
      refine own.imp (fun other => ?_) fun named => ⟨_, rfl, named⟩
      rw [queryValue, agree.entry_eq other, ← queryValue, madeRight] at madeLeft
      exact (Except.ok.inj madeLeft).symm

/-- The headers that a plan binds differ under the names that take their value from the argument. -/
theorem boundHeaders {may : String → Prop} (agree : AgreeExcept key left right)
    {request : RequestPlan}
    (bound : ∀ name argument, (name, argument) ∈ filledHeaders request.headers →
      .str argument ≠ key ∨ may name) :
    DifferWithin may (Call.boundHeaders request left) (Call.boundHeaders request right) := by
  refine DifferWithin.foldl_insert ?_ (DifferWithin.refl [])
  refine List.forall₂_map_left_iff.mpr (List.forall₂_map_right_iff.mpr ?_)
  refine List.forall₂_same.mpr fun binding member => ⟨rfl, ?_⟩
  obtain ⟨name, source⟩ := binding
  cases source with
  | constant value => exact Or.inl rfl
  | argument argument =>
      have filled : (name, argument) ∈ filledHeaders request.headers :=
        List.mem_filterMap.mpr ⟨_, member, rfl⟩
      exact (bound name argument filled).imp agree.entry_eq fun named => ⟨name, rfl, named⟩

/-- The headers of a request differ at most under names that the argument is bound to but for
case. -/
theorem headersOf {may : String → Prop} (agree : AgreeExcept key left right) {request : RequestPlan}
    (bound : ∀ name argument, (name, argument) ∈ filledHeaders request.headers →
      .str argument ≠ key ∨ may name)
    {callers : Value} {headersLeft headersRight : Entries}
    (madeLeft : Call.headersOf request left callers = .ok headersLeft)
    (madeRight : Call.headersOf request right callers = .ok headersRight) :
    ∃ afterLeft afterRight, DifferWithin may afterLeft afterRight ∧
      headersLeft = setHeaders afterLeft ∧ headersRight = setHeaders afterRight := by
  obtain ⟨below, afterLeft, merged, addedLeft, rfl⟩ := headersOf_eq_ok_iff.mp madeLeft
  obtain ⟨again, afterRight, same, addedRight, rfl⟩ := headersOf_eq_ok_iff.mp madeRight
  rw [merged] at same
  obtain rfl := Except.ok.inj same
  exact ⟨afterLeft, afterRight, (agree.boundHeaders bound).foldlM_addHeader
    (DifferWithin.refl below) addedLeft addedRight, rfl, rfl⟩

end AgreeExcept

/-- Requests with the same fields in the same order, of which at most one differs. -/
abbrev DifferAt (field : String) (one other : Entries) : Prop :=
  DifferWithin (· = field) one other

namespace Parts

/-- Requests differ where the parts that they are put together from do. -/
theorem differWithin {one other : Parts} {plan : RequestPlan} {may : String → Prop}
    (options : one.options = other.options) (url : one.url = other.url ∨ may "url")
    (headers : one.headers = other.headers ∨ may "headers")
    (query : one.query = other.query ∨ may "params")
    (body : plan.carriesBody = true →
      entry one.arguments bodyArgument = entry other.arguments bodyArgument ∨
        may plan.bodyField.name) :
    DifferWithin may (one.request plan) (other.request plan) := by
  rw [request, request, options]
  refine DifferWithin.foldl_insert (DifferWithin.refl _) ?_
  have carried :
      DifferWithin may [bodyEntry plan one.arguments] [bodyEntry plan other.arguments] := by
    unfold bodyEntry
    split
    · next carries =>
      exact .cons ⟨rfl, (body carries).imp_right fun named => ⟨_, rfl, named⟩⟩ .nil
    · exact DifferWithin.refl _
  refine .cons ⟨rfl, Or.inl rfl⟩ (.cons ⟨rfl, Or.inl rfl⟩ (.cons ⟨rfl, ?_⟩ (.cons ⟨rfl, ?_⟩
    (.cons ⟨rfl, ?_⟩ carried))))
  · exact url.imp (congrArg Value.str) fun named => ⟨_, rfl, named⟩
  · exact headers.imp (congrArg Value.map) fun named => ⟨_, rfl, named⟩
  · exact query.imp (congrArg Value.map) fun named => ⟨_, rfl, named⟩

end Parts

/-- Parameters that are called by one argument are one parameter. -/
theorem eq_of_argumentOf_eq {operation : Operation} (distinct : (argumentNames operation).Nodup)
    {location elsewhere : Location} {one other : Parameter}
    (member : one ∈ parametersAt location operation)
    (present : other ∈ parametersAt elsewhere operation) {key : Value}
    (called : key = .str (argumentOf one)) (also : key = .str (argumentOf other)) :
    one = other ∧ location = elsewhere := by
  obtain ⟨explicit, rfl⟩ := mem_parametersAt.mp member
  obtain ⟨again, rfl⟩ := mem_parametersAt.mp present
  obtain rfl := List.inj_on_of_nodup_map distinct explicit again
    (Value.str.inj (called.symm.trans also))
  exact ⟨rfl, rfl⟩

/-- An argument that belongs to a parameter is not the body. -/
theorem argumentOf_ne_bodyArgument {operation : Operation}
    (apart : operation.body.isSome = true → bodyArgument ∉ argumentNames operation)
    (carries : operation.body.isSome = true) {location : Location} {parameter : Parameter}
    (member : parameter ∈ parametersAt location operation) {key : Value}
    (called : key = .str (argumentOf parameter)) : key ≠ .str bodyArgument := by
  rintro rfl
  have named := Value.str.inj called
  exact apart carries (named ▸ List.mem_map_of_mem (mem_parametersAt.mp member).1)

/-- The field of a request that the arguments of a location belong to. -/
def fieldOf : Location → String
  | .path => "url"
  | .query => "params"
  | .header => "headers"

section Assembled

variable {operation : Operation} {operationId : String} {info : Info} {server : Server}
  {versions : Versions} {segments : List Segment} {functions : List String}
  {left right options key : Value} {one other : Parts}
  (assemblesLeft : Assembles functions
    (built operation operationId info server versions segments) left options one)
  (assemblesRight : Assembles functions
    (built operation operationId info server versions segments) right options other)
  (agree : AgreeExcept key one.arguments other.arguments)

include assemblesLeft assemblesRight

theorem options_eq_of_assembles : one.options = other.options :=
  Except.ok.inj (assemblesLeft.options.symm.trans assemblesRight.options)

include agree

theorem url_eq_of_assembles
    (cut : segmentsOf (withArguments (parametersAt .path operation)) operation.path = .ok segments)
    (apart : ∀ parameter ∈ parametersAt .path operation, key ≠ .str (argumentOf parameter)) :
    one.url = other.url := by
  refine Except.ok.inj (assemblesLeft.url.symm.trans ((agree.urlOf_eq ?_).trans assemblesRight.url))
  intro name argument member
  obtain ⟨parameter, declared, -, rfl⟩ :=
    (mem_filledSegments_iff cut).mp (mem_filledSegments.mpr member)
  exact Ne.symm (apart parameter declared)

theorem queries_of_assembles :
    ∃ boundLeft boundRight,
      DifferWithin (NamedBy key (parametersAt .query operation)) boundLeft boundRight ∧
        one.query = sentQuery boundLeft ∧ other.query = sentQuery boundRight := by
  obtain ⟨below, read, rest⟩ := bind_eq_ok.mp assemblesLeft.query
  obtain ⟨again, reread, restRight⟩ := bind_eq_ok.mp assemblesRight.query
  rw [← options_eq_of_assembles assemblesLeft assemblesRight, read] at reread
  obtain rfl := Except.ok.inj reread
  obtain ⟨boundLeft, doneLeft, sentLeft⟩ := bind_eq_ok.mp rest
  obtain ⟨boundRight, doneRight, sentRight⟩ := bind_eq_ok.mp restRight
  refine ⟨boundLeft, boundRight, agree.foldlM_bindQuery (fun binding member => ?_)
    (DifferWithin.refl below) doneLeft doneRight, (Except.ok.inj sentLeft).symm,
    (Except.ok.inj sentRight).symm⟩
  have bindings : (built operation operationId info server versions segments).request.query =
      (parametersAt .query operation).map fun parameter =>
        ⟨parameter.name, argumentOf parameter, parameter.ordered⟩ :=
    queryBindings_withArguments (explicitParameters operation)
  rw [bindings] at member
  obtain ⟨parameter, declared, rfl⟩ := List.mem_map.mp member
  by_cases called : key = .str (argumentOf parameter)
  · exact Or.inr ⟨parameter, declared, rfl, called⟩
  · exact Or.inl (Ne.symm called)

theorem headers_of_assembles :
    ∃ afterLeft afterRight,
      DifferWithin (NamedBy key (parametersAt .header operation)) afterLeft afterRight ∧
        one.headers = setHeaders afterLeft ∧ other.headers = setHeaders afterRight := by
  have made := assemblesRight.headers
  rw [← options_eq_of_assembles assemblesLeft assemblesRight] at made
  refine agree.headersOf (fun name argument member => ?_) assemblesLeft.headers made
  have filled : filledHeaders
      (built operation operationId info server versions segments).request.headers =
        (parametersAt .header operation).map fun parameter =>
          (parameter.name, argumentOf parameter) :=
    filledHeaders_headerBindings (explicitParameters operation) info versions
  rw [filled] at member
  obtain ⟨parameter, declared, same⟩ := List.mem_map.mp member
  obtain ⟨rfl, rfl⟩ := Prod.mk.inj same
  by_cases called : key = .str (argumentOf parameter)
  · exact Or.inr ⟨parameter, declared, rfl, called⟩
  · exact Or.inl (Ne.symm called)

/-- Requests differ at most at the fields that the key's argument belongs to. -/
theorem differWithin_of_assembles
    (cut : segmentsOf (withArguments (parametersAt .path operation)) operation.path = .ok segments)
    {may : String → Prop}
    (atPath : ∀ parameter ∈ parametersAt .path operation,
      key = .str (argumentOf parameter) → may "url")
    (atQuery : ∀ parameter ∈ parametersAt .query operation,
      key = .str (argumentOf parameter) → may "params")
    (atHeader : ∀ parameter ∈ parametersAt .header operation,
      key = .str (argumentOf parameter) → may "headers")
    (atBody : operation.body.isSome = true → key = .str bodyArgument →
      may (built operation operationId info server versions segments).request.bodyField.name) :
    DifferWithin may
      (one.request (built operation operationId info server versions segments).request)
      (other.request (built operation operationId info server versions segments).request) := by
  obtain ⟨boundLeft, boundRight, queries, sentLeft, sentRight⟩ :=
    queries_of_assembles assemblesLeft assemblesRight agree
  obtain ⟨afterLeft, afterRight, headers, setLeft, setRight⟩ :=
    headers_of_assembles assemblesLeft assemblesRight agree
  refine Parts.differWithin (options_eq_of_assembles assemblesLeft assemblesRight) ?_ ?_ ?_ ?_
  · by_cases called : ∃ parameter ∈ parametersAt .path operation, key = .str (argumentOf parameter)
    · obtain ⟨parameter, declared, called⟩ := called
      exact Or.inr (atPath parameter declared called)
    · exact Or.inl (url_eq_of_assembles assemblesLeft assemblesRight agree cut
        fun parameter declared same => called ⟨parameter, declared, same⟩)
  · by_cases called : ∃ name, NamedBy key (parametersAt .header operation) name
    · obtain ⟨_, parameter, declared, -, called⟩ := called
      exact Or.inr (atHeader parameter declared called)
    · rw [setLeft, setRight, headers.eq (not_exists.mp called)]
      exact Or.inl rfl
  · by_cases called : ∃ name, NamedBy key (parametersAt .query operation) name
    · obtain ⟨_, parameter, declared, -, called⟩ := called
      exact Or.inr (atQuery parameter declared called)
    · rw [sentLeft, sentRight, queries.eq (not_exists.mp called)]
      exact Or.inl rfl
  · intro carries
    by_cases called : key = .str bodyArgument
    · exact Or.inr (atBody carries called)
    · exact Or.inl (agree.entry_eq (Ne.symm called))

/-- The argument of a parameter reaches the field of its location and no other. -/
theorem differAt_of_called (distinct : (argumentNames operation).Nodup)
    (apart : operation.body.isSome = true → bodyArgument ∉ argumentNames operation)
    (cut : segmentsOf (withArguments (parametersAt .path operation)) operation.path = .ok segments)
    {location : Location} {parameter : Parameter}
    (declared : parameter ∈ parametersAt location operation)
    (called : key = .str (argumentOf parameter)) :
    DifferAt (fieldOf location)
      (one.request (built operation operationId info server versions segments).request)
      (other.request (built operation operationId info server versions segments).request) := by
  refine differWithin_of_assembles assemblesLeft assemblesRight agree cut ?_ ?_ ?_ ?_
  · intro _ present also
    rw [(eq_of_argumentOf_eq distinct declared present called also).2, fieldOf]
  · intro _ present also
    rw [(eq_of_argumentOf_eq distinct declared present called also).2, fieldOf]
  · intro _ present also
    rw [(eq_of_argumentOf_eq distinct declared present called also).2, fieldOf]
  · intro carries body
    exact absurd body (argumentOf_ne_bodyArgument apart carries declared called)

end Assembled

/-- Leaving out the one name under which entries may differ, whatever else is left out, leaves no
difference. -/
theorem without_filter_eq {left right : Entries} {key : Value} {parameters : List Parameter}
    {parameter : Parameter} (differ : DifferWithin (NamedBy key parameters) left right)
    (alone : ∀ name, NamedBy key parameters name → name = parameter.name)
    (keeps : Value × Value → Bool) :
    without (left.filter keeps) parameter.name = without (right.filter keeps) parameter.name := by
  rw [without, without, List.filter_filter, List.filter_filter]
  refine differ.filter_eq fun name value named => ?_
  have same : sameKey (.str name) (.str parameter.name) = true :=
    sameKey_str_right.mpr (congrArg Value.str (alone name named))
  rw [same, Bool.not_true, Bool.false_and]

/-- Two calls whose arguments differ under one key at most make requests that differ at most in the
address if a path argument has that key, in the query entry of its name if a query argument has it,
in the headers of its header's name if a header argument has it, and in the body if that has it.
Otherwise the requests are equal. -/
theorem evaluate_isolated {operation : Operation} {info : Info} {servers : List Server}
    {versions : Versions} {plan : Plan}
    (planned : ofOperation operation info servers versions = .ok plan) {functions : List String}
    {left right options : Value} {givenLeft givenRight one other : Entries}
    (argumentsLeft : OptionalMapping left givenLeft)
    (argumentsRight : OptionalMapping right givenRight) {key : Value}
    (agree : AgreeExcept key givenLeft givenRight)
    (dispatchedLeft : evaluate functions plan left options = .ok one)
    (dispatchedRight : evaluate functions plan right options = .ok other) :
    (∀ parameter ∈ parametersAt .path operation, key = .str (argumentOf parameter) →
        DifferAt "url" one other) ∧
      (∀ parameter ∈ parametersAt .query operation, key = .str (argumentOf parameter) →
        DifferAt "params" one other ∧
          ∃ queryLeft queryRight, field? one "params" = some (.map queryLeft) ∧
            field? other "params" = some (.map queryRight) ∧
            without queryLeft parameter.name = without queryRight parameter.name) ∧
      (∀ parameter ∈ parametersAt .header operation, key = .str (argumentOf parameter) →
        DifferAt "headers" one other ∧
          ∃ headersLeft headersRight, field? one "headers" = some (.map headersLeft) ∧
            field? other "headers" = some (.map headersRight) ∧
            without headersLeft parameter.name = without headersRight parameter.name) ∧
      (operation.body.isSome = true → key = .str bodyArgument →
        DifferAt plan.request.bodyField.name one other) ∧
      ((∀ parameter ∈ explicitParameters operation, key ≠ .str (argumentOf parameter)) →
        (operation.body.isSome = true → key ≠ .str bodyArgument) → one = other) := by
  obtain ⟨operationId, server, _, segments, -, -, rfl, distinct, apart, cut, rfl⟩ :=
    ofOperation_eq_ok_iff.mp planned
  obtain ⟨partsLeft, assemblesLeft, rfl⟩ := evaluate_eq_ok_iff.mp dispatchedLeft
  obtain ⟨partsRight, assemblesRight, rfl⟩ := evaluate_eq_ok_iff.mp dispatchedRight
  have taken : AgreeExcept key partsLeft.arguments partsRight.arguments := by
    rw [← Except.ok.inj ((argumentsOf_eq argumentsLeft).symm.trans assemblesLeft.arguments),
      ← Except.ok.inj ((argumentsOf_eq argumentsRight).symm.trans assemblesRight.arguments)]
    exact agree.taken _
  have alone {location : Location} {parameter : Parameter}
      (declared : parameter ∈ parametersAt location operation)
      (called : key = .str (argumentOf parameter)) :
      ∀ name, NamedBy key (parametersAt location operation) name → name = parameter.name := by
    rintro _ ⟨again, present, rfl, also⟩
    rw [(eq_of_argumentOf_eq distinct declared present called also).1]
  refine ⟨?_, ?_, ?_, ?_, ?_⟩
  · intro parameter declared called
    exact differAt_of_called assemblesLeft assemblesRight taken distinct apart cut declared called
  · intro parameter declared called
    obtain ⟨boundLeft, boundRight, queries, sentLeft, sentRight⟩ :=
      queries_of_assembles assemblesLeft assemblesRight taken
    refine ⟨differAt_of_called assemblesLeft assemblesRight taken distinct apart
      cut declared called,
      _, _, Parts.field?_params partsLeft _, Parts.field?_params partsRight _, ?_⟩
    rw [sentLeft, sentRight]
    exact without_filter_eq queries (alone declared called) _
  · intro parameter declared called
    obtain ⟨afterLeft, afterRight, headers, setLeft, setRight⟩ :=
      headers_of_assembles assemblesLeft assemblesRight taken
    refine ⟨differAt_of_called assemblesLeft assemblesRight taken distinct apart
      cut declared called,
      _, _, Parts.field?_headers partsLeft _, Parts.field?_headers partsRight _, ?_⟩
    rw [setLeft, setRight]
    exact without_filter_eq headers (alone declared called) _
  · intro carries called
    have none {location : Location} : ∀ parameter ∈ parametersAt location operation,
        key = .str (argumentOf parameter) → False :=
      fun parameter declared also => argumentOf_ne_bodyArgument apart carries declared also called
    exact differWithin_of_assembles assemblesLeft assemblesRight taken cut
      (fun parameter declared also => (none parameter declared also).elim)
      (fun parameter declared also => (none parameter declared also).elim)
      (fun parameter declared also => (none parameter declared also).elim) fun _ _ => rfl
  · intro unknown bodiless
    have nowhere {location : Location} : ∀ parameter ∈ parametersAt location operation,
        key = .str (argumentOf parameter) → False :=
      fun parameter declared => unknown parameter (mem_parametersAt.mp declared).1
    have differ : DifferWithin (fun _ => False) _ _ :=
      differWithin_of_assembles assemblesLeft assemblesRight taken cut nowhere
        nowhere nowhere bodiless
    exact differ.eq fun _ => id

/-- The same arguments in another order and with other tags. -/
def retaggedArguments : Entries :=
  [(.str "tags", .list []), (.str "user_id", .int 7)]

theorem exists_retagged_requests :
    ∃ plan, ofOperation ordersOperation shopInfo shopServers shopVersions = .ok plan ∧
      (∃ request, evaluate [] plan (.map taggedArguments) (.map pageOptions) = .ok request) ∧
        ∃ request, evaluate [] plan (.map retaggedArguments) (.map pageOptions) = .ok request := by
  obtain ⟨plan, planned, tagged⟩ := exists_tagged_request
  have dispatched : (do
      let plan ← (ofOperation ordersOperation shopInfo shopServers shopVersions).toOption
      (evaluate [] plan (.map retaggedArguments) (.map pageOptions)).toOption).isSome = true := by
    decide +kernel
  rw [planned] at dispatched
  exact ⟨plan, planned, tagged, exists_eq_ok_of_isSome dispatched⟩

/-- Other tags change the query under their name and nothing else. -/
theorem evaluate_isolated_ordersOperation :
    ∃ plan one other queryLeft queryRight,
      ofOperation ordersOperation shopInfo shopServers shopVersions = .ok plan ∧
        evaluate [] plan (.map taggedArguments) (.map pageOptions) = .ok one ∧
        evaluate [] plan (.map retaggedArguments) (.map pageOptions) = .ok other ∧
        DifferAt "params" one other ∧ field? one "params" = some (.map queryLeft) ∧
        field? other "params" = some (.map queryRight) ∧
        without queryLeft "tags" = without queryRight "tags" := by
  obtain ⟨plan, planned, ⟨one, dispatchedLeft⟩, other, dispatchedRight⟩ := exists_retagged_requests
  have agree : AgreeExcept (.str "tags") taggedArguments retaggedArguments := by
    intro name differs
    have untagged : Value.str "tags" ≠ .str name := Ne.symm differs
    rw [taggedArguments, retaggedArguments, field?_cons_of_ne untagged]
    by_cases user : Value.str "user_id" = .str name
    · rw [← Value.str.inj user, field?_cons_self, field?_cons_self]
    · rw [field?_cons_of_ne user, field?_cons_of_ne user, field?_cons_of_ne untagged]
  obtain ⟨-, queries, -⟩ :=
    evaluate_isolated planned (.mapping _) (.mapping _) agree dispatchedLeft dispatchedRight
  have declared : ⟨"tags", .query, false, true, none, ["array"]⟩ ∈
      parametersAt .query ordersOperation := by decide
  obtain ⟨differ, queryLeft, queryRight, fieldLeft, fieldRight, same⟩ :=
    queries _ declared (congrArg Value.str (by decide))
  exact ⟨plan, one, other, queryLeft, queryRight, planned, dispatchedLeft, dispatchedRight, differ,
    fieldLeft, fieldRight, same⟩

end ApiCompiler.Call
