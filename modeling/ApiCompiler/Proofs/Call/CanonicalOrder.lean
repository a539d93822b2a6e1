import ApiCompiler.Proofs.Call.Isolation
import ApiCompiler.Proofs.Sorting.Run
import ApiCompiler.Proofs.Value.Domain

/-!
# Ordered arguments

An ordered query argument is sent in rising order. Two calls whose ordered arguments hold the same
values in different orders send values that compare equal at every place; where no two different
values compare equal, the calls are the same.

On texts, on defined numbers of every kind, and on lists over one such domain, comparing is an
order, and lists and tuples of such values can always be sorted: the same values come out in rising
order, and those that compare equal in the order in which they were given.
-/

namespace ApiCompiler.Call

open Outcome Plan Value

/-- Whether a value is sorted in front of another. -/
def precedes (one other : Value) : Bool :=
  (goesBefore? one other).any id

theorem goesBefore?_eq {one other : Value} {sign : Int} (known : one.compare? other = some sign) :
    goesBefore? one other = some (decide (sign < 0)) := by
  rw [goesBefore?, known, Option.map_some]

theorem precedes_eq_false_iff {one other : Value} {sign : Int}
    (known : one.compare? other = some sign) : precedes other one = false ↔ NotAbove one other := by
  rw [precedes, goesBefore?_eq (compare?_eq_some_neg known), Option.any_some, id,
    decide_eq_false_iff_not, NotAbove, known]
  constructor
  · exact fun most => ⟨sign, by omega, rfl⟩
  · rintro ⟨_, most, same⟩
    obtain rfl := Option.some.inj same
    omega

/-- Ranked values can be sorted. -/
theorem compares_of_ranked {items : List Value} (ranked : Ranked items) :
    Sorting.Compares goesBefore? precedes (· ∈ items) where
  tells own next := by
    obtain ⟨sign, known⟩ := ranked.compares _ own _ next
    rw [precedes, goesBefore?_eq known]
    rfl
  asymm {one other} own next goes := by
    obtain ⟨sign, known⟩ := ranked.compares one own other next
    rw [precedes_eq_false_iff known]
    rw [precedes, goesBefore?_eq known, Option.any_some, id, decide_eq_true_iff] at goes
    exact ⟨sign, goes.le, known⟩
  trans {one other last} first second third ordered further := by
    obtain ⟨_, known⟩ := ranked.compares one first other second
    obtain ⟨_, next⟩ := ranked.compares other second last third
    obtain ⟨_, outer⟩ := ranked.compares one first last third
    rw [precedes_eq_false_iff known] at ordered
    rw [precedes_eq_false_iff next] at further
    rw [precedes_eq_false_iff outer]
    exact ranked.trans one first other second last third ordered further

/-- Sorting ranked values puts them in rising order, and keeps the order of those that do not
precede each other. -/
theorem exists_sorted {items : List Value} (ranked : Ranked items) :
    ∃ sent, sorted items = .ok (.list sent) ∧ Sorting.Keeps precedes sent items ∧
      sent.Pairwise NotAbove := by
  obtain ⟨sent, done, keeps, rises⟩ :=
    Sorting.exists_sortItems (compares_of_ranked ranked) fun _ member => member
  refine ⟨sent, by rw [sorted, done], keeps, rises.imp_of_mem fun own next ordered => ?_⟩
  obtain ⟨_, known⟩ := ranked.compares _ (keeps.perm.subset own) _ (keeps.perm.subset next)
  exact (precedes_eq_false_iff known).mp ordered

theorem exists_sortOrdered {items : List Value} (ranked : Ranked items) :
    ∃ sent, sortOrdered (.list items) = .ok (.list sent) ∧ sent.Perm items ∧
      sent.Pairwise NotAbove := by
  obtain ⟨sent, done, keeps, rises⟩ := exists_sorted ranked
  exact ⟨sent, done, keeps.perm, rises⟩

/-- The first of two values compares as at most the second. -/
def AtMost (one other : Value) : Prop :=
  ∃ sign : Int, sign ≤ 0 ∧ orderedCompare one other = .ok (.int sign)

/-- Whether two values compare as equal. -/
def ties (one other : Value) : Bool :=
  match orderedCompare one other with
  | .ok (.int sign) => sign == 0
  | _ => false

/-- Comparing orders the values of a domain, and does so by their ranks. -/
structure Orders (domain : Domain) : Prop where
  refl {one : Value} : domain.Holds one → orderedCompare one one = .ok (.int 0)
  antisymm {one other : Value} : domain.Holds one → domain.Holds other →
    ∃ sign : Int, (sign = -1 ∨ sign = 0 ∨ sign = 1) ∧ orderedCompare one other = .ok (.int sign) ∧
      orderedCompare other one = .ok (.int (-sign))
  trans {one other last : Value} : domain.Holds one → domain.Holds other → domain.Holds last →
    AtMost one other → AtMost other last → AtMost one last
  total {one other : Value} : domain.Holds one → domain.Holds other →
    AtMost one other ∨ AtMost other one
  ranks {one other : Value} : domain.Holds one → domain.Holds other →
    (AtMost one other ↔ domain.rank one ≤ domain.rank other)

theorem orderedCompare_eq_ok_iff {one other : Value} {sign : Int} :
    orderedCompare one other = .ok (.int sign) ↔ one.compare? other = some sign := by
  rw [orderedCompare]
  cases one.compare? other with
  | none => simp
  | some found => simp

theorem atMost_iff {one other : Value} : AtMost one other ↔ NotAbove one other := by
  simp only [AtMost, NotAbove, orderedCompare_eq_ok_iff]

theorem ties_iff {one other : Value} : ties one other = true ↔ Beside one other := by
  rw [ties, orderedCompare, Beside]
  cases one.compare? other with
  | none => simp
  | some sign => simp

/-- The sign of a comparison is minus one, zero or one. -/
theorem sign_of_compare? {one other : Value} {sign : Int} (known : one.compare? other = some sign) :
    sign = -1 ∨ sign = 0 ∨ sign = 1 := by
  rw [compare?, Option.bind_eq_bind, Option.bind_eq_some_iff] at known
  obtain ⟨above, -, rest⟩ := known
  obtain ⟨below, -, made⟩ := Option.bind_eq_some_iff.mp rest
  rw [← Option.some.inj made]
  cases above <;> cases below <;> decide

theorem orders (domain : Domain) : Orders domain where
  refl {one} own := by
    have reflexive := (Domain.notAbove_iff_rank_le own own).mpr le_rfl
    exact orderedCompare_eq_ok_iff.mpr (beside_iff.mpr ⟨reflexive, reflexive⟩)
  antisymm {one other} own next := by
    have ranked : Ranked [one, other] :=
      Domain.ranked (List.forall_mem_cons.mpr ⟨own, List.forall_mem_singleton.mpr next⟩)
    obtain ⟨sign, known⟩ := ranked.compares one (by simp) other (by simp)
    exact ⟨sign, sign_of_compare? known, orderedCompare_eq_ok_iff.mpr known,
      orderedCompare_eq_ok_iff.mpr (compare?_eq_some_neg known)⟩
  trans own next last := by
    rw [atMost_iff, atMost_iff, atMost_iff, Domain.notAbove_iff_rank_le own next,
      Domain.notAbove_iff_rank_le next last, Domain.notAbove_iff_rank_le own last]
    exact le_trans
  total own next := by
    rw [atMost_iff, atMost_iff, Domain.notAbove_iff_rank_le own next,
      Domain.notAbove_iff_rank_le next own]
    exact le_total _ _
  ranks own next := atMost_iff.trans (Domain.notAbove_iff_rank_le own next)

/-- What compares equal to one value does not precede each other. -/
theorem filter_ties {items sent : List Value} (ranked : Ranked items)
    (keeps : Sorting.Keeps precedes sent items) {one : Value} (own : one ∈ items) :
    sent.filter (ties one) = items.filter (ties one) := by
  refine keeps.ties (ties one) fun first inside second within tied also => ?_
  obtain ⟨sign, known⟩ := ranked.compares second within first inside
  rw [precedes_eq_false_iff known]
  have before := (beside_iff.mp (ties_iff.mp tied)).1
  have behind := (beside_iff.mp (ties_iff.mp also)).2
  exact ranked.trans second within one own first inside behind before

/-- Comparing orders every domain, and each list or tuple of its values is sorted: the same values
in rising order, and those that compare equal in the order in which they stood. -/
theorem sortOrdered_of_domain (domain : Domain) : Orders domain ∧
    ∀ items : List Value, (∀ item ∈ items, domain.Holds item) →
      ∃ sent, sortOrdered (.list items) = .ok (.list sent) ∧
        sortOrdered (.tuple items) = .ok (.list sent) ∧
        sent.Perm items ∧ sent.Pairwise AtMost ∧
        ∀ one ∈ items, sent.filter (ties one) = items.filter (ties one) := by
  refine ⟨orders domain, fun items held => ?_⟩
  have ranked := Domain.ranked held
  obtain ⟨sent, done, keeps, rises⟩ := exists_sorted ranked
  exact ⟨sent, done, done, keeps.perm, rises.imp atMost_iff.mpr,
    fun one own => filter_ties ranked keeps own⟩

/-- Rows of numbers, the second and the third of which are equal. -/
def numberRows : List Value := [
  .list [.int 2, .int 1],
  .list [.bool true, .int 3],
  .list [.float (.finite false 0x10000000000000 (-52)), .int 3],
  .list [.int 1, .float (.infinite true)]]

theorem holds_numberRows : ∀ row ∈ numberRows, (Domain.lists .numbers).Holds row := by
  have numbers {one other : Value} (first : Domain.numbers.Holds one)
    (second : Domain.numbers.Holds other) :
      (Domain.lists .numbers).Holds (.list [one, other]) :=
    .list (List.forall_mem_cons.mpr ⟨first, List.forall_mem_singleton.mpr second⟩)
  refine List.forall_mem_cons.mpr ⟨numbers (.int 2) (.int 1), ?_⟩
  refine List.forall_mem_cons.mpr ⟨numbers (.bool true) (.int 3), ?_⟩
  refine List.forall_mem_cons.mpr ⟨numbers (.float _ nofun) (.int 3), ?_⟩
  exact List.forall_mem_singleton.mpr (numbers (.int 1) (.float _ nofun))

/-- Of two equal rows, the one that was given first goes first. -/
theorem sortOrdered_numberRows : (∀ row ∈ numberRows, (Domain.lists .numbers).Holds row) ∧
    ∃ sent, sortOrdered (.tuple numberRows) = .ok (.list sent) ∧ sent.Perm numberRows ∧
      sent.Pairwise AtMost ∧ sent.filter (ties (.list [.bool true, .int 3])) =
        [.list [.bool true, .int 3],
          .list [.float (.finite false 0x10000000000000 (-52)), .int 3]] := by
  obtain ⟨sent, -, done, perm, rises, kept⟩ :=
    (sortOrdered_of_domain (.lists .numbers)).2 numberRows holds_numberRows
  exact ⟨holds_numberRows, sent, done, perm, rises, (kept _ (by simp [numberRows])).trans (by rfl)⟩

/-- The query is the same where the same values are bound. -/
theorem foldlM_bindQuery_congr {functions : List String} {left right : Entries}
    {bindings : List QueryBinding}
    (alike : ∀ binding ∈ bindings,
      queryValue functions left binding = queryValue functions right binding) (query : Entries) :
    bindings.foldlM (bindQuery functions left) query =
      bindings.foldlM (bindQuery functions right) query := by
  induction bindings generalizing query with
  | nil => rfl
  | cons binding bindings induction =>
      obtain ⟨own, others⟩ := List.forall_mem_cons.mp alike
      rw [List.foldlM_cons, List.foldlM_cons, bindQuery, bindQuery, own]
      exact bind_congr fun next => induction others next

theorem field?_update_asEntries {declared : List (String × Value)}
    (distinct : (declared.map (·.1)).Nodup) {name : String} {value : Value}
    (member : (name, value) ∈ declared) (query : Entries) :
    field? (update query (asEntries declared)) name = some value := by
  induction declared generalizing query with
  | nil => exact absurd member List.not_mem_nil
  | cons entry declared induction =>
      rw [List.map_cons, List.nodup_cons] at distinct
      change
        field? (update (Value.insert query (.str entry.1) entry.2) (asEntries declared)) name = _
      obtain rfl | rest := List.mem_cons.mp member
      · rw [field?_update_of_forall_ne, field?_insert_self]
        refine List.forall_mem_map.mpr fun other present same => distinct.1 ?_
        exact List.mem_map.mpr ⟨other, present, Value.str.inj same⟩
      · exact induction distinct.2 rest _

/-- A call sends some values under the name of a query parameter, if it sends a request and any
values. -/
def Sends (functions : List String) (plan : Plan) (parameters options : Value) (name : String)
    (values : List Value) : Prop :=
  ∀ request, evaluate functions plan parameters options = .ok request → values ≠ [] →
    ∃ query, field? request "params" = some (.map query) ∧ field? query name = some (.list values)

section Built

variable {operation : Operation} {operationId : String} {info : Info} {server : Server}
  {versions : Versions} {segments : List Segment} {functions : List String}
  {givenLeft givenRight : Entries} {parameter : Parameter}
  (distinct : (argumentNames operation).Nodup)
  (apart : operation.body.isSome = true → bodyArgument ∉ argumentNames operation)
  (cut : segmentsOf (withArguments (parametersAt .path operation)) operation.path = .ok segments)
  (declared : parameter ∈ parametersAt .query operation)
  (agree : AgreeExcept (.str (argumentOf parameter)) givenLeft givenRight)

include distinct declared

/-- No argument of another location is called like that of a query parameter. -/
theorem argument_ne_of_elsewhere {location : Location} (elsewhere : location ≠ .query)
    {other : Parameter} (present : other ∈ parametersAt location operation) :
    Value.str (argumentOf other) ≠ .str (argumentOf parameter) := fun same =>
  elsewhere (eq_of_argumentOf_eq distinct present declared same.symm rfl).2

include agree

/-- What a plan binds in the headers is the same in both calls. -/
theorem headersOf_eq_of_agree (callers : Value) :
    headersOf (built operation operationId info server versions segments).request
      givenLeft callers =
      headersOf (built operation operationId info server versions segments).request givenRight
        callers := by
  have bound : DifferWithin (fun _ => False)
      (boundHeaders (built operation operationId info server versions segments).request givenLeft)
      (boundHeaders (built operation operationId info server versions segments).request
        givenRight) := by
    refine agree.boundHeaders fun name argument member => Or.inl ?_
    have filled : filledHeaders
        (built operation operationId info server versions segments).request.headers =
          (parametersAt .header operation).map fun parameter =>
            (parameter.name, argumentOf parameter) :=
      filledHeaders_headerBindings (explicitParameters operation) info versions
    rw [filled] at member
    obtain ⟨other, present, same⟩ := List.mem_map.mp member
    obtain ⟨rfl, rfl⟩ := Prod.mk.inj same
    exact argument_ne_of_elsewhere distinct declared (by decide) present
  rw [headersOf, headersOf, bound.eq fun _ => id]

include cut in
theorem urlOf_eq_of_agree :
    urlOf (built operation operationId info server versions segments).request givenLeft =
      urlOf (built operation operationId info server versions segments).request givenRight := by
  refine agree.urlOf_eq fun name argument member => ?_
  obtain ⟨other, present, -, rfl⟩ :=
    (mem_filledSegments_iff cut).mp (mem_filledSegments.mpr member)
  exact argument_ne_of_elsewhere distinct declared (by decide) present

include apart in
omit distinct in
theorem bodyEntry_eq_of_agree :
    bodyEntry (built operation operationId info server versions segments).request givenLeft =
      bodyEntry (built operation operationId info server versions segments).request givenRight := by
  unfold bodyEntry
  split
  · next carries =>
    rw [agree.entry_eq (Ne.symm (argumentOf_ne_bodyArgument apart carries declared rfl))]
  · rfl

variable {itemsLeft itemsRight : List Value}
  (heldLeft : entry givenLeft (argumentOf parameter) = .list itemsLeft)
  (heldRight : entry givenRight (argumentOf parameter) = .list itemsRight)

include heldLeft heldRight

omit distinct declared in
/-- A list in place of another one leaves the same arguments set. -/
theorem checkRequired_eq_of_agree (required : List String) :
    checkRequired givenLeft required = checkRequired givenRight required := by
  have alike : (fun name => !isSet (entry givenLeft name)) = fun name =>
    !isSet (entry givenRight name) := by
    funext name
    by_cases own : name = argumentOf parameter
    · rw [own, heldLeft, heldRight]
      rfl
    · rw [agree.entry_eq fun same => own (Value.str.inj same)]
  rw [checkRequired_eq, checkRequired_eq, alike]

variable (ordered : parameter.ordered = true)
  (alike : sortOrdered (.list itemsLeft) = sortOrdered (.list itemsRight))

include ordered alike

theorem queryOf_eq_of_agree (callers : Value) :
    queryOf functions (built operation operationId info server versions segments).request givenLeft
        callers =
      queryOf functions
        (built operation operationId info server versions segments).request givenRight
        callers := by
  have bindings : (built operation operationId info server versions segments).request.query =
      (parametersAt .query operation).map fun parameter =>
        ⟨parameter.name, argumentOf parameter, parameter.ordered⟩ :=
    queryBindings_withArguments (explicitParameters operation)
  have values :
      ∀ binding ∈ (built operation operationId info server versions segments).request.query,
      queryValue functions givenLeft binding = queryValue functions givenRight binding := by
    rw [bindings]
    refine List.forall_mem_map.mpr fun other present => ?_
    by_cases own : argumentOf other = argumentOf parameter
    · obtain rfl := (eq_of_argumentOf_eq distinct present declared rfl (congrArg Value.str own)).1
      rw [queryValue, queryValue, if_pos ordered, if_pos ordered, heldLeft, heldRight]
      exact alike
    · rw [queryValue, queryValue, agree.entry_eq fun same => own (Value.str.inj same)]
  rw [queryOf, queryOf]
  exact bind_congr fun callers => by rw [foldlM_bindQuery_congr values]

include apart cut in
/-- Two calls whose ordered arguments sort to the same list are the same. -/
theorem evaluate_eq_of_agree {left right : Value} (argumentsLeft : OptionalMapping left givenLeft)
    (argumentsRight : OptionalMapping right givenRight) (options : Value) :
    evaluate functions (built operation operationId info server versions segments) left options =
      evaluate functions (built operation operationId info server versions segments)
        right options := by
  have takes :
      (built operation operationId info server versions segments).takesParameters = true := by
    rw [← Bool.not_eq_false, takesParameters_built_eq_false_iff]
    rintro ⟨none, -⟩
    have explicit := (mem_parametersAt.mp declared).1
    rw [none] at explicit
    contradiction
  have requests (replacing : Entries) :
      requestOf functions
        (built operation operationId info server versions segments).request givenLeft
          replacing =
        requestOf functions
          (built operation operationId info server versions segments).request givenRight
          replacing := by
    rw [requestOf, requestOf, headersOf_eq_of_agree distinct declared agree,
      queryOf_eq_of_agree distinct declared agree heldLeft heldRight ordered alike,
      urlOf_eq_of_agree distinct cut declared agree, bodyEntry_eq_of_agree apart declared agree]
  rw [evaluate, evaluate, argumentsOf_eq argumentsLeft, argumentsOf_eq argumentsRight,
    takes, if_pos rfl, if_pos rfl]
  change checkRequired givenLeft _ >>= _ = checkRequired givenRight _ >>= _
  rw [checkRequired_eq_of_agree agree heldLeft heldRight]
  exact bind_congr fun _ => bind_congr fun replacing => by rw [requests replacing]

end Built

/-- What an ordered list of a call sorts to is sent under the name of its parameter. -/
theorem sends_of_held {operation : Operation} {operationId : String} {info : Info} {server : Server}
    {versions : Versions} {segments : List Segment} (distinct : (argumentNames operation).Nodup)
    {parameter : Parameter} (declared : parameter ∈ parametersAt .query operation)
    (ordered : parameter.ordered = true) {parameters : Value} {given : Entries}
    (arguments : OptionalMapping parameters given) {items sent : List Value}
    (held : entry given (argumentOf parameter) = .list items)
    (sorts : sortOrdered (.list items) = .ok (.list sent)) (functions : List String)
    (options : Value) :
    Sends functions (built operation operationId info server versions segments) parameters options
      parameter.name sent := by
  intro request dispatched something
  obtain ⟨parts, assembles, rfl⟩ := evaluate_eq_ok_iff.mp dispatched
  have taken := Except.ok.inj ((argumentsOf_eq arguments).symm.trans assembles.arguments)
  obtain ⟨callers, -, rest⟩ := bind_eq_ok.mp assembles.query
  obtain ⟨bound, folded, filtered⟩ := bind_eq_ok.mp rest
  obtain ⟨entries, each, rfl⟩ := foldlM_bindQuery_eq_ok folded
  have bindings : (built operation operationId info server versions segments).request.query =
      (parametersAt .query operation).map fun parameter =>
        ⟨parameter.name, argumentOf parameter, parameter.ordered⟩ :=
    queryBindings_withArguments (explicitParameters operation)
  rw [bindings, List.forall₂_map_left_iff, ← taken] at each
  have declares : Declares given (parametersAt .query operation) entries :=
    declares_taken (each.imp fun _ _ bound => ⟨bound.1, binds_of_queryValue bound.2⟩)
  have names := nodup_names_of_arguments distinct .query
  rw [← declares.map_fst] at names
  have binds : Binds given parameter (.list sent) := by rwa [Binds, if_pos ordered, held]
  have found := field?_update_asEntries names
    (declares.mem_iff.mpr ⟨parameter, declared, rfl, binds⟩) callers
  refine ⟨parts.query, Parts.field?_params parts _, ?_⟩
  rw [← Except.ok.inj filtered]
  refine field?_filter_of_eq_some found ?_
  cases sent with
  | nil => exact absurd rfl something
  | cons first sent => rfl

/-- Two calls that differ in an ordered query argument, which holds the same ranked values in two
orders, send these values in rising order, with values beside each other at every place. Where the
values are sent in one order, and so wherever no two different values are beside each other, the
calls are the same. -/
theorem evaluate_of_rearranged {operation : Operation} {info : Info} {servers : List Server}
    {versions : Versions} {plan : Plan}
    (planned : ofOperation operation info servers versions = .ok plan) {parameter : Parameter}
    (declared : parameter ∈ parametersAt .query operation) (ordered : parameter.ordered = true)
    {left right : Value} {givenLeft givenRight : Entries}
    (argumentsLeft : OptionalMapping left givenLeft)
    (argumentsRight : OptionalMapping right givenRight)
    (agree : AgreeExcept (.str (argumentOf parameter)) givenLeft givenRight)
    {itemsLeft itemsRight : List Value}
    (heldLeft : entry givenLeft (argumentOf parameter) = .list itemsLeft)
    (heldRight : entry givenRight (argumentOf parameter) = .list itemsRight)
    (rearranged : itemsRight.Perm itemsLeft) (ranked : Ranked itemsLeft) (functions : List String)
    (options : Value) :
    ∃ sentLeft sentRight,
      Sends functions plan left options parameter.name sentLeft ∧
        Sends functions plan right options parameter.name sentRight ∧
        sentLeft.Perm itemsLeft ∧ sentRight.Perm itemsLeft ∧
        sentLeft.Pairwise NotAbove ∧ sentRight.Pairwise NotAbove ∧
        List.Forall₂ Beside sentLeft sentRight ∧
        (sentLeft = sentRight →
          evaluate functions plan left options = evaluate functions plan right options) ∧
        (Untied itemsLeft → sentLeft = sentRight) := by
  obtain ⟨operationId, server, _, segments, -, -, rfl, distinct, apart, cut, rfl⟩ :=
    ofOperation_eq_ok_iff.mp planned
  have rankedRight : Ranked itemsRight := {
    compares := fun one own other next =>
      ranked.compares one (rearranged.subset own) other (rearranged.subset next)
    trans := fun one own other next last third =>
      ranked.trans one (rearranged.subset own) other (rearranged.subset next) last
        (rearranged.subset third) }
  obtain ⟨sentLeft, sortsLeft, permLeft, risesLeft⟩ := exists_sortOrdered ranked
  obtain ⟨sentRight, sortsRight, permRight, risesRight⟩ := exists_sortOrdered rankedRight
  have permuted := permRight.trans rearranged
  refine ⟨sentLeft, sentRight, ?_, ?_, permLeft, permuted, risesLeft, risesRight,
    ranked.forall₂_beside permLeft permuted risesLeft risesRight, ?_, ?_⟩
  · exact sends_of_held distinct declared ordered argumentsLeft heldLeft sortsLeft functions options
  · exact sends_of_held distinct declared ordered argumentsRight heldRight
      sortsRight functions options
  · rintro rfl
    exact evaluate_eq_of_agree distinct apart cut declared agree heldLeft heldRight ordered
      (sortsLeft.trans sortsRight.symm) argumentsLeft argumentsRight options
  · exact fun alone => alone.eq_of_rising permLeft permuted risesLeft risesRight

def labelledArguments (tags : List Value) : Entries :=
  [(.str "user_id", .int 7), (.str "tags", .list tags)]

theorem agreeExcept_labelledArguments (left right : List Value) :
    AgreeExcept (.str "tags") (labelledArguments left) (labelledArguments right) := by
  intro name differs
  have untagged : Value.str "tags" ≠ .str name := Ne.symm differs
  by_cases user : Value.str "user_id" = .str name
  · rw [labelledArguments, labelledArguments, ← Value.str.inj user,
      field?_cons_self, field?_cons_self]
  · rw [labelledArguments, labelledArguments, field?_cons_of_ne user, field?_cons_of_ne user,
      field?_cons_of_ne untagged, field?_cons_of_ne untagged]

/-- Two texts are sent in one order, whichever is given first. -/
theorem evaluate_of_rearranged_texts :
    ∃ plan request, ofOperation ordersOperation shopInfo shopServers shopVersions = .ok plan ∧
      evaluate [] plan (.map (labelledArguments [.str "old", .str "new"])) .null = .ok request ∧
      evaluate [] plan (.map (labelledArguments [.str "new", .str "old"])) .null = .ok request := by
  obtain ⟨plan, planned⟩ := exists_plan_ordersOperation
  have declared : ⟨"tags", .query, false, true, none, ["array"]⟩ ∈
      parametersAt .query ordersOperation := by decide
  have named : argumentOf ⟨"tags", .query, false, true, none, ["array"]⟩ = "tags" := by decide
  obtain ⟨ranked, untied⟩ := ranked_and_untied_texts ["old", "new"]
  obtain ⟨sentLeft, sentRight, -, -, -, -, -, -, -, same, one⟩ :=
    evaluate_of_rearranged planned declared rfl (.mapping _) (.mapping _)
      (named ▸ agreeExcept_labelledArguments [.str "old", .str "new"] [.str "new", .str "old"])
      (named ▸ rfl) (named ▸ rfl) (List.Perm.swap ..) ranked [] .null
  have dispatched : (do
      let plan ← (ofOperation ordersOperation shopInfo shopServers shopVersions).toOption
      let given := Value.map (labelledArguments [.str "old", .str "new"])
      (evaluate [] plan given .null).toOption).isSome = true := by
    decide +kernel
  rw [planned] at dispatched
  obtain ⟨request, made⟩ := exists_eq_ok_of_isSome dispatched
  exact ⟨plan, request, planned, made, (same (one untied)).symm.trans made⟩

/-- The sizes of the tags that a request sends. -/
def sentSizes (result : Except Fault Entries) : Option (List (Option Size)) :=
  match result.toOption.bind (field? · "params") with
  | some (.map query) =>
    match field? query "tags" with
    | some (.list tags) => some (tags.map size?)
    | _ => none
  | _ => none

/-- Two integers with the undefined number between them. -/
def interrupted : List Value :=
  [.int 2, .float .nan, .int 1]

/-- The undefined number compares with all others and stands beside them, so that it keeps values on
either side of it from being sorted. -/
theorem undefined_number_keeps_given_order :
    ∃ plan, ofOperation ordersOperation shopInfo shopServers shopVersions = .ok plan ∧
      interrupted.reverse.Perm interrupted ∧
      (∀ one ∈ interrupted, ∀ other ∈ interrupted, (one.compare? other).isSome) ∧
      evaluate [] plan (.map (labelledArguments interrupted)) .null ≠
        evaluate [] plan (.map (labelledArguments interrupted.reverse)) .null := by
  obtain ⟨plan, planned⟩ := exists_plan_ordersOperation
  have differs :
      (ofOperation ordersOperation shopInfo shopServers shopVersions).toOption.map (fun plan =>
      decide (sentSizes (evaluate [] plan (.map (labelledArguments interrupted)) .null) =
        sentSizes (evaluate [] plan (.map (labelledArguments interrupted.reverse)) .null))) =
      some false := by
    decide +kernel
  rw [planned] at differs
  refine ⟨plan, planned, List.reverse_perm _, by decide, fun same => ?_⟩
  exact of_decide_eq_false (Option.some.inj differs) (congrArg sentSizes same)

end ApiCompiler.Call
