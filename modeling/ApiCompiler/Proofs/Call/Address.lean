import ApiCompiler.Proofs.Call.Dispatch
import ApiCompiler.Proofs.Plan.Operation
import ApiCompiler.Proofs.Text.Pieces

/-!
# Addresses of requests

The address of a dispatched request is the texts of its segments with slashes between. Cut at its
slashes it gives one piece for each segment exactly where no argument brings a slash of its own; an
argument that does fills several segments.
-/

namespace ApiCompiler.Call

open Outcome Plan Text

/-- The texts that fill some segments. -/
def Fill (arguments : Entries) : List Segment → List String → Prop :=
  List.Forall₂ fun segment text => segmentText arguments segment = .ok text

/-- None of the arguments that fill some segments brings a slash. -/
def Slashless (arguments : Entries) (segments : List Segment) : Prop :=
  ∀ name argument text, Segment.parameter name argument ∈ segments →
    segmentText arguments (.parameter name argument) = .ok text → '/' ∉ text.toList

/-- An address is the texts of its segments with slashes between. -/
theorem urlOf_eq_ok_iff {request : RequestPlan} {arguments : Entries} {url : String} :
    urlOf request arguments = .ok url ↔
      ∃ texts, Fill arguments request.segments texts ∧ String.intercalate "/" texts = url := by
  rw [urlOf, bind_eq_ok]
  refine exists_congr fun texts => and_congr mapM_eq_ok_iff_forall₂ ?_
  simp [pure, Except.pure]

/-- A segment that no argument fills has no slash: it is a piece between two slashes of the path. -/
theorem slash_not_mem_of_literal {operation : Operation} {info : Info} {servers : List Server}
    {versions : Versions} {plan : Plan}
    (planned : ofOperation operation info servers versions = .ok plan) {value : String}
    (member : Segment.literal value ∈ plan.request.segments) : '/' ∉ value.toList := by
  obtain ⟨operationId, server, _, segments, -, -, rfl, -, -, cut, rfl⟩ :=
    ofOperation_eq_ok_iff.mp planned
  obtain ⟨matched, -, -⟩ := segmentsOf_eq_ok_iff.mp cut
  clear cut planned
  change Segment.literal value ∈ segments at member
  have pieces : ∀ piece ∈ pathPieces operation.path, '/' ∉ piece :=
    fun piece held => separator_not_mem_of_mem_splitAt piece (List.mem_filter.mp held).1
  generalize pathPieces operation.path = path at matched pieces
  induction matched with
  | nil => exact absurd member List.not_mem_nil
  | @cons piece segment path segments fills matched induction =>
      obtain ⟨first, others⟩ := List.forall_mem_cons.mp pieces
      rcases List.mem_cons.mp member with rfl | later
      · cases fills with
        | literal unnamed whole => rwa [String.toList_ofList]
      · exact induction later others

/-- Segments are filled without slashes exactly where their arguments bring none. -/
theorem forall_slash_not_mem_iff {arguments : Entries} {segments : List Segment}
    {texts : List String}
    (literals : ∀ value, Segment.literal value ∈ segments → '/' ∉ value.toList)
    (filled : Fill arguments segments texts) :
    (∀ text ∈ texts, '/' ∉ text.toList) ↔ Slashless arguments segments := by
  induction filled with
  | nil => simp [Slashless]
  | @cons segment text segments texts fills filled induction =>
      have rest := induction fun value member => literals value (List.mem_cons_of_mem _ member)
      rw [List.forall_mem_cons, rest]
      constructor
      · rintro ⟨own, others⟩ name argument given member gives
        rcases List.mem_cons.mp member with rfl | later
        · obtain rfl := Except.ok.inj (fills.symm.trans gives)
          exact own
        · exact others name argument given later gives
      · intro slashless
        refine ⟨?_, fun name argument given member =>
          slashless name argument given (List.mem_cons_of_mem _ member)⟩
        cases segment with
        | literal value =>
            obtain rfl := Except.ok.inj fills
            exact literals value List.mem_cons_self
        | parameter name argument => exact slashless name argument text List.mem_cons_self fills

section Pieces

variable {texts : List String} (filled : texts ≠ [])

include filled

/-- An address is cut into the pieces of its texts. -/
theorem splitAt_intercalate :
    splitAt '/' (String.intercalate "/" texts).toList =
      texts.flatMap fun text => splitAt '/' text.toList := by
  rw [toList_intercalate, show "/".toList = ['/'] from rfl,
    splitAt_joinWith_eq_flatMap '/' (by simpa using filled), List.flatMap_map]

/-- There are no more pieces than texts exactly where no text has a slash. -/
theorem length_splitAt_intercalate_eq_iff :
    (splitAt '/' (String.intercalate "/" texts).toList).length = texts.length ↔
      ∀ text ∈ texts, '/' ∉ text.toList := by
  have counted : ((texts.map String.toList).flatMap (splitAt '/')).length =
      (texts.map String.toList).length ↔ ∀ part ∈ texts.map String.toList, '/' ∉ part :=
    length_flatMap_splitAt_eq_iff
  rw [List.flatMap_map, List.length_map, List.forall_mem_map] at counted
  rw [splitAt_intercalate filled]
  exact counted

/-- The pieces are the texts themselves exactly where no text has a slash. -/
theorem splitAt_intercalate_eq_iff :
    splitAt '/' (String.intercalate "/" texts).toList = texts.map String.toList ↔
      ∀ text ∈ texts, '/' ∉ text.toList := by
  constructor
  · intro same
    refine (length_splitAt_intercalate_eq_iff filled).mp ?_
    rw [same, List.length_map]
  · intro absent
    rw [toList_intercalate]
    exact splitAt_joinWith (by simpa using filled) (List.forall_mem_map.mpr absent)

end Pieces

/-- Texts without slashes make different addresses. -/
theorem intercalate_injective {left right : List String} (someLeft : left ≠ [])
    (someRight : right ≠ [])
    (plainLeft : ∀ text ∈ left, '/' ∉ text.toList) (plainRight : ∀ text ∈ right, '/' ∉ text.toList)
    (same : String.intercalate "/" left = String.intercalate "/" right) : left = right := by
  have pieces := (splitAt_intercalate_eq_iff someLeft).mpr plainLeft
  rw [same, (splitAt_intercalate_eq_iff someRight).mpr plainRight] at pieces
  exact (List.map_injective_iff.mpr (fun _ _ same => String.toList_injective same) pieces).symm

/-- The address of a dispatched request holds the pieces of the texts that fill its segments. There
is one piece for each segment, the text itself, exactly where no argument brings a slash; among the
calls that bring none, different texts have different addresses. -/
theorem url_pieces_of_evaluate {operation : Operation} {info : Info} {servers : List Server}
    {versions : Versions} {plan : Plan}
    (planned : ofOperation operation info servers versions = .ok plan)
    (segmented : plan.request.segments ≠ []) {functions : List String} {parameters options : Value}
    {given request : Entries} (replaced : optionalEntries options = .ok given)
    (kept : ∀ option ∈ given, option.1 ≠ .str "url")
    (dispatched : evaluate functions plan parameters options = .ok request) :
    ∃ arguments texts url, argumentsOf plan parameters = .ok arguments ∧
      Fill arguments plan.request.segments texts ∧
      Value.field? request "url" = some (.str url) ∧
      splitAt '/' url.toList = texts.flatMap (fun text => splitAt '/' text.toList) ∧
      ((splitAt '/' url.toList).length = plan.request.segments.length ↔
        Slashless arguments plan.request.segments) ∧
      (splitAt '/' url.toList = texts.map String.toList ↔
        Slashless arguments plan.request.segments) ∧
      (Slashless arguments plan.request.segments →
        ∀ others otherTexts, Fill others plan.request.segments otherTexts →
          Slashless others plan.request.segments → String.intercalate "/" otherTexts = url →
          otherTexts = texts) := by
  obtain ⟨parts, assembles, rfl⟩ := evaluate_eq_ok_iff.mp dispatched
  obtain rfl := Except.ok.inj (assembles.options.symm.trans replaced)
  obtain ⟨texts, fills, joined⟩ := urlOf_eq_ok_iff.mp assembles.url
  have literals : ∀ value, Segment.literal value ∈ plan.request.segments → '/' ∉ value.toList :=
    fun _ => slash_not_mem_of_literal planned
  have plain := forall_slash_not_mem_iff literals fills
  have nonempty {others : Entries} {texts : List String}
      (fills : Fill others plan.request.segments texts) : texts ≠ [] := by
    rintro rfl
    exact segmented (List.forall₂_nil_right_iff.mp fills)
  have filled := nonempty fills
  refine ⟨parts.arguments, texts, parts.url, assembles.arguments, fills,
    Parts.field?_url kept plan.request, ?_, ?_, ?_, ?_⟩
  · rw [← joined, splitAt_intercalate filled]
  · rw [← joined, List.Forall₂.length_eq fills, length_splitAt_intercalate_eq_iff filled, plain]
  · rw [← joined, splitAt_intercalate_eq_iff filled, plain]
  · intro slashless others otherTexts otherFills otherSlashless same
    have otherPlain := (forall_slash_not_mem_iff literals otherFills).mpr otherSlashless
    exact intercalate_injective (nonempty otherFills) filled otherPlain (plain.mpr slashless)
      (same.trans joined.symm)

/-- An operation whose path is two arguments. -/
def pairOperation : Operation where
  path := "/{first}/{second}"
  method := .get
  operationId := some "getPair"
  summary := none
  description := none
  parameters := [⟨"first", .path, true, false, none, []⟩, ⟨"second", .path, true, false, none, []⟩]
  body := none

def pairInfo : Info := ⟨"Pairs", "1", none⟩

def pairServers : List Server := [⟨"http://api.test/v1", none⟩]

def pairVersions : Versions := ⟨none, none⟩

def pairPlan : Plan where
  operationId := "getPair"
  functionName := "get_pair"
  arguments := ["first", "second"]
  acceptsBody := false
  request := {
    method := .get
    baseUrl := "http://api.test/v1"
    segments := [.parameter "first" "first", .parameter "second" "second"]
    headers := [⟨"X-API-Version", .constant "1"⟩]
    query := []
    carriesBody := false
    bodyField := .json
    contentType := none
    required := ["first", "second"] }
  notes := ⟨none, none, [⟨"first", "first", .path, "", true, none⟩,
    ⟨"second", "second", .path, "", true, none⟩], none⟩

theorem ofOperation_pairOperation :
    ofOperation pairOperation pairInfo pairServers pairVersions = .ok pairPlan := rfl

def pairArguments (first second : String) : Entries :=
  [(.str "first", .str first), (.str "second", .str second)]

/-- The request of a call with two arguments. -/
def pairRequest (url : String) : Entries :=
  [(.str "base_url", .str "http://api.test/v1"), (.str "method", .str "GET"),
    (.str "url", .str url),
    (.str "headers", .map [(.str "X-API-Version", .str "1")]), (.str "params", .map []),
    (.str "json", .null)]

/-- Other marks of an address than slashes leave each argument in the piece of its segment. -/
theorem url_pieces_pairPlan :
    evaluate [] pairPlan (.map (pairArguments "a b" "c?d#..")) .null =
      .ok (pairRequest "a b/c?d#..") ∧
      (splitAt '/' "a b/c?d#..".toList).length = pairPlan.request.segments.length := by
  have dispatched : evaluate [] pairPlan (.map (pairArguments "a b" "c?d#..")) .null =
      .ok (pairRequest "a b/c?d#..") := by
    rfl
  refine ⟨dispatched, ?_⟩
  obtain ⟨arguments, texts, url, taken, fills, field, -, counted, -⟩ :=
    url_pieces_of_evaluate ofOperation_pairOperation (by simp [pairPlan]) rfl (by simp) dispatched
  obtain rfl : "a b/c?d#.." = url := Value.str.inj (Option.some.inj field)
  obtain rfl : pairArguments "a b" "c?d#.." = arguments := Except.ok.inj taken
  refine counted.mpr fun name argument text member gives => ?_
  simp only [pairPlan, List.mem_cons, Segment.parameter.injEq, List.not_mem_nil, or_false] at member
  rcases member with ⟨rfl, rfl⟩ | ⟨rfl, rfl⟩
  · obtain rfl : "a b" = text := Except.ok.inj gives
    decide
  · obtain rfl : "c?d#.." = text := Except.ok.inj gives
    decide

/-- An argument with a slash makes a piece more than there are segments, and two calls with
different arguments one address. -/
theorem slash_in_argument_adds_piece :
    ofOperation pairOperation pairInfo pairServers pairVersions = .ok pairPlan ∧
      evaluate [] pairPlan (.map (pairArguments "a/b" "c")) .null = .ok (pairRequest "a/b/c") ∧
      evaluate [] pairPlan (.map (pairArguments "a" "b/c")) .null = .ok (pairRequest "a/b/c") ∧
      splitAt '/' "a/b/c".toList = ["a".toList, "b".toList, "c".toList] ∧
      pairPlan.request.segments.length = 2 := by
  refine ⟨ofOperation_pairOperation, rfl, rfl, ?_, rfl⟩
  decide

end ApiCompiler.Call
