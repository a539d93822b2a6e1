import ApiCompiler.Proofs.Plan.Operation
import ApiCompiler.Proofs.Text.Pieces

/-!
# Templates of paths

A path is a template: texts, and names in braces that parameters fill, with slashes between. Every
template whose names are those of the path parameters is cut into exactly its segments. In the other
direction the segments of a plan are the pieces of its path, up to a line feed behind the braces of
a name, which is lost.
-/

namespace ApiCompiler

open Text

/-- A name in braces. -/
def Plan.braced (name : List Char) : List Char :=
  '\x7b' :: (name ++ ['\x7d'])

/-- A segment as it stands in a path. -/
def Segment.template : Segment → List Char
  | .literal value => value.toList
  | .parameter name _ => Plan.braced name.toList

namespace Plan

theorem hasPlaceholder_iff {piece : List Char} :
    hasPlaceholder piece = true ↔ HoldsBraces piece := by
  rw [← exists_group_mem_pieces_iff, hasPlaceholder, List.any_eq_true]
  constructor
  · rintro ⟨part, member, group⟩
    cases part with
    | single character => contradiction
    | group name => exact ⟨name, member⟩
  · rintro ⟨name, member⟩
    exact ⟨.group name, member, rfl⟩

/-- A piece stands for a name exactly where it is the name in braces, with at most a line feed
behind. -/
theorem placeholder?_eq_some_iff {piece : List Char} {name : String} :
    placeholder? piece = some name ↔
      name ≠ "" ∧ name.toList.any isBrace = false ∧
        (piece = braced name.toList ∨ piece = braced name.toList ++ ['\n']) := by
  have written := flatMap_write_pieces piece
  have braceless {held : List Char} (member : .group held ∈ pieces piece) :
      held.any isBrace = false :=
    braceless_of_group_mem_pieces member
  constructor
  · intro named
    unfold placeholder? at named
    split at named
    · next first held read =>
      obtain rfl := Option.some.inj named
      rw [read] at written braceless
      refine ⟨by simp, by simpa using braceless List.mem_cons_self, .inl ?_⟩
      simp [← written, Text.Piece.write, braced]
    · next first held read =>
      obtain rfl := Option.some.inj named
      rw [read] at written braceless
      refine ⟨by simp, by simpa using braceless List.mem_cons_self, .inr ?_⟩
      simp [← written, Text.Piece.write, braced]
    · contradiction
  · rintro ⟨filled, plain, whole⟩
    have named : name.toList ≠ [] := fun empty => filled (String.toList_eq_nil_iff.mp empty)
    obtain ⟨first, rest, spelled⟩ := List.exists_cons_of_ne_nil named
    have same : String.ofList (first :: rest) = name := by rw [← spelled, String.ofList_toList]
    rw [spelled] at plain whole
    rcases whole with rfl | rfl
    · rw [placeholder?, braced, pieces_group_append plain []]
      exact congrArg some same
    · rw [placeholder?, braced, List.cons_append, List.append_assoc, List.singleton_append,
        pieces_group_append plain ['\n']]
      exact congrArg some same

/-- How a piece of a path is kept by its segment. -/
inductive Keeps : List Char → Segment → Prop where
  | whole (segment : Segment) : Keeps segment.template segment
  /-- A line feed behind the braces of a name is lost. -/
  | lineFeed (name argument : String) : Keeps (braced name.toList ++ ['\n'])
    (.parameter name argument)

/-- A name in braces with a line feed behind. -/
def EndsLine (piece : List Char) : Prop :=
  ∃ name : List Char, name.any isBrace = false ∧ piece = braced name ++ ['\n']

theorem keeps_of_fills {parameters : Named} {piece : List Char} {segment : Segment}
    (fills : Fills parameters piece segment) : Keeps piece segment := by
  cases fills with
  | literal unnamed whole =>
      have kept := Keeps.whole (.literal (String.ofList piece))
      rwa [Segment.template, String.toList_ofList] at kept
  | @parameter name argument parameter names declared required =>
      obtain ⟨-, -, rfl | rfl⟩ := placeholder?_eq_some_iff.mp names
      · exact .whole (.parameter name argument)
      · exact .lineFeed name argument

/-- A segment is its piece exactly where the piece is no name in braces with a line feed behind. -/
theorem template_eq_iff_of_fills {parameters : Named} {piece : List Char} {segment : Segment}
    (fills : Fills parameters piece segment) : segment.template = piece ↔ ¬EndsLine piece := by
  cases fills with
  | literal unnamed whole =>
      refine iff_of_true (String.toList_ofList) ?_
      rintro ⟨name, plain, rfl⟩
      rw [← Bool.not_eq_true, hasPlaceholder_iff] at whole
      exact whole ⟨[], name, ['\n'], by simp [braced], plain⟩
  | @parameter name argument parameter names declared required =>
      obtain ⟨-, plain, rfl | rfl⟩ := placeholder?_eq_some_iff.mp names
      · refine iff_of_true rfl ?_
        rintro ⟨other, -, same⟩
        have last := congrArg List.getLast? same
        rw [braced, ← List.cons_append, List.getLast?_concat, List.getLast?_concat] at last
        exact absurd last (by decide)
      · refine iff_of_false ?_ (fun whole => whole ⟨name.toList, plain, rfl⟩)
        simp [Segment.template]

theorem slash_not_mem_of_keeps {piece : List Char} {segment : Segment} (keeps : Keeps piece segment)
    (unslashed : '/' ∉ piece) : '/' ∉ segment.template := by
  cases keeps with
  | whole => exact unslashed
  | lineFeed name argument => exact fun member => unslashed (List.mem_append_left _ member)

theorem slash_not_mem_map_template {pieces : List (List Char)} {segments : List Segment}
    (kept : List.Forall₂ Keeps pieces segments) (unslashed : ∀ piece ∈ pieces, '/' ∉ piece) :
    ∀ written ∈ segments.map Segment.template, '/' ∉ written := by
  induction kept with
  | nil => simp
  | cons keeps _ rest =>
      rw [List.forall_mem_cons] at unslashed
      rw [List.map_cons, List.forall_mem_cons]
      exact ⟨slash_not_mem_of_keeps keeps unslashed.1, rest unslashed.2⟩

/-- The segments are the pieces exactly where no piece is a name in braces with a line feed
behind. -/
theorem map_template_eq_iff {parameters : Named} {pieces : List (List Char)}
    {segments : List Segment}
    (matched : List.Forall₂ (Fills parameters) pieces segments) :
    segments.map Segment.template = pieces ↔ ∀ piece ∈ pieces, ¬EndsLine piece := by
  induction matched with
  | nil => simp
  | cons fills _ rest =>
      rw [List.map_cons, List.cons.injEq, template_eq_iff_of_fills fills, rest,
        List.forall_mem_cons]

/-- Pieces without slashes are told from their text. -/
theorem joinWith_slash_inj {pieces others : List (List Char)}
    (plain : ∀ piece ∈ pieces, '/' ∉ piece)
    (alsoPlain : ∀ piece ∈ others, '/' ∉ piece) (lengths : pieces.length = others.length) :
    joinWith ['/'] pieces = joinWith ['/'] others ↔ pieces = others := by
  refine ⟨fun same => ?_, congrArg (joinWith ['/'])⟩
  by_cases none : pieces = []
  · subst none
    exact (List.length_eq_zero_iff.mp lengths.symm).symm
  · have some : others ≠ [] := by
      rintro rfl
      exact none (List.length_eq_zero_iff.mp lengths)
    rw [← splitAt_joinWith none plain, same, splitAt_joinWith some alsoPlain]

theorem slash_not_mem_of_mem_pathPieces {path : String} : ∀ piece ∈ pathPieces path, '/' ∉ piece :=
  fun piece member => separator_not_mem_of_mem_splitAt piece (List.mem_filter.mp member).1

/-- The segments of a plan keep the pieces of its path, and nothing but line feeds behind names in
braces is lost: where there are none, the segments with slashes between are the pieces with slashes
between. -/
theorem template_of_planned {operation : Operation} {info : Info} {servers : List Server}
    {versions : Versions} {plan : Plan}
    (planned : ofOperation operation info servers versions = .ok plan) :
    List.Forall₂ Keeps (pathPieces operation.path) plan.request.segments ∧
      (joinWith ['/'] (plan.request.segments.map Segment.template) =
          joinWith ['/'] (pathPieces operation.path) ↔
        ∀ piece ∈ pathPieces operation.path, ¬EndsLine piece) := by
  obtain ⟨operationId, server, others, segments, -, -, -, -, -, cut, rfl⟩ :=
    ofOperation_eq_ok_iff.mp planned
  obtain ⟨matched, -, -⟩ := segmentsOf_eq_ok_iff.mp cut
  change List.Forall₂ Keeps (pathPieces operation.path) segments ∧
    (joinWith ['/'] (segments.map Segment.template) = _ ↔ _)
  have kept : List.Forall₂ Keeps (pathPieces operation.path) segments :=
    matched.imp fun _ _ => keeps_of_fills
  have unslashed : ∀ piece ∈ pathPieces operation.path, '/' ∉ piece :=
    slash_not_mem_of_mem_pathPieces
  have alsoUnslashed := slash_not_mem_map_template kept unslashed
  have lengths : (segments.map Segment.template).length = (pathPieces operation.path).length := by
    rw [List.length_map, kept.length_eq]
  exact ⟨kept,
    (joinWith_slash_inj alsoUnslashed unslashed lengths).trans (map_template_eq_iff matched)⟩

set_option maxRecDepth 4000 in
theorem template_of_planned_ordersOperation :
    ∃ plan, ofOperation ordersOperation shopInfo shopServers shopVersions = .ok plan ∧
      joinWith ['/'] (plan.request.segments.map Segment.template) =
        joinWith ['/'] (pathPieces ordersOperation.path) := by
  obtain ⟨plan, planned⟩ := exists_plan_ordersOperation
  refine ⟨plan, planned, (template_of_planned planned).2.mpr ?_⟩
  rintro piece member ⟨name, -, rfl⟩
  have ends : ∀ piece ∈ pathPieces ordersOperation.path, piece.getLast? ≠ some '\n' := by decide
  exact ends _ member List.getLast?_concat

/-- An operation whose path ends in a line feed. -/
def lineFeedOperation : Operation where
  path := "/users/\x7bid\x7d\n"
  method := .get
  operationId := some "getUser"
  summary := none
  description := none
  parameters := [⟨"id", .path, true, false, none, ["string"]⟩]
  body := none

/-- The line feed behind the braces is in no segment. -/
theorem template_drops_line_feed :
    ∃ plan, ofOperation lineFeedOperation shopInfo shopServers shopVersions = .ok plan ∧
      joinWith ['/'] (plan.request.segments.map Segment.template) ≠
        joinWith ['/'] (pathPieces lineFeedOperation.path) :=
  ⟨_, rfl, by decide⟩

end Plan

end ApiCompiler
