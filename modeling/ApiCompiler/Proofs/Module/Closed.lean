import ApiCompiler.Module.Assembly
import ApiCompiler.Proofs.Module.Lexis

/-!
# Code of modules

Behind each stretch of a module's code no literal and no comment is open, but for the documentation
that it opens at its end.
-/

namespace ApiCompiler.Module

open Text

theorem closed_append {left right : String} (first : Closed left.toList)
    (second : Closed right.toList) : Closed (left ++ right).toList := by
  rw [String.toList_append]
  exact first.append second

/-- A line behind whose end nothing is open. -/
def ClosedLine (line : String) : Prop :=
  Closed (line ++ "\n").toList

theorem closedLine_of_closed {line : String} (closed : Closed line.toList) : ClosedLine line :=
  closed_append closed (.literal (by decide))

theorem closed_unlines {lines : List String} (each : ∀ line ∈ lines, ClosedLine line) :
    Closed (unlines lines).toList := by
  rw [unlines, String.toList_join, List.flatMap_map]
  exact .flatten (List.forall_mem_map.mpr each)

theorem forall_closedLine_cons {line : List Char} {lines : List String}
    (closed : Closed (line ++ ['\n'])) (others : ∀ line ∈ lines, ClosedLine line) :
    ∀ text ∈ String.ofList line :: lines, ClosedLine text := by
  refine List.forall_mem_cons.mpr ⟨?_, others⟩
  rw [ClosedLine, String.toList_append, String.toList_ofList]
  exact closed

theorem closed_argumentLookup (argument : String) : Closed (argumentLookup argument).toList :=
  closed_around (.literal (by decide)) (by decide) (by decide) argument

theorem closedLine_checkLine (argument : String) : ClosedLine (checkLine argument) :=
  closedLine_of_closed (closed_around (.literal (by decide)) (by decide) (by decide) argument)

theorem closedLine_headerLine (binding : HeaderBinding) : ClosedLine (headerLine binding) := by
  obtain ⟨key, source⟩ := binding
  have lead : Closed ("            " ++ quoted key ++ ": ").toList :=
    closed_around (.literal (by decide)) (by decide) (by decide) key
  refine closedLine_of_closed ?_
  cases source with
  | constant value => exact closed_around lead (by decide) (by decide) value
  | argument argument =>
      exact closed_append (closed_append lead (closed_argumentLookup argument))
        (.literal (by decide))

theorem closedLine_queryLine (binding : QueryBinding) : ClosedLine (queryLine binding) := by
  obtain ⟨key, argument, ordered⟩ := binding
  have lead : Closed ("        " ++ quoted key ++ ": ").toList :=
    closed_around (.literal (by decide)) (by decide) (by decide) key
  have lookup := closed_argumentLookup argument
  have sorted : Closed ("sort_ordered(" ++ argumentLookup argument ++ ")").toList :=
    closed_append (closed_append (.literal (by decide)) lookup) (.literal (by decide))
  refine closedLine_of_closed ?_
  cases ordered with
  | false => exact closed_append (closed_append lead lookup) (.literal (by decide))
  | true => exact closed_append (closed_append lead sorted) (.literal (by decide))

theorem closedLine_segmentLine (segment : Segment) : ClosedLine (segmentLine segment) := by
  refine closedLine_of_closed ?_
  cases segment with
  | literal value => exact closed_around (.literal (by decide)) (by decide) (by decide) value
  | parameter name argument =>
      exact closed_around (.literal (by decide)) (by decide) (by decide) argument

theorem closedLine_contentTypeLines (request : RequestPlan) :
    ∀ line ∈ contentTypeLines request, ClosedLine line := by
  unfold contentTypeLines
  split
  · rw [List.forall_mem_singleton]
    exact closedLine_of_closed (closed_around (.literal (by decide)) (by decide) (by decide) _)
  · exact List.forall_mem_nil _

theorem closedLine_methodLine (method : Method) :
    ClosedLine s!"        \"method\": {quoted method.verb}," :=
  closedLine_of_closed (closed_around (.literal (by decide)) (by decide) (by decide) _)

theorem closedLine_bodyLine (request : RequestPlan) : ClosedLine (bodyLine request) := by
  have lead : Closed ("        " ++ quoted request.bodyField.name ++ ": ").toList :=
    closed_around (.literal (by decide)) (by decide) (by decide) _
  refine closedLine_of_closed ?_
  unfold bodyLine
  split
  · exact closed_append (closed_append lead (closed_argumentLookup _)) (.literal (by decide))
  · exact .literal (by decide)

theorem closedLine_functionLines (plan : Plan) : ∀ line ∈ functionLines plan, ClosedLine line := by
  have opening : ∀ line ∈ (if plan.takesParameters then
      ["    arguments = dict(parameters or \x7b\x7d)"] else []), ClosedLine line := by
    split
    · exact forall_closedLine_cons (by decide) (List.forall_mem_nil _)
    · exact List.forall_mem_nil _
  unfold functionLines
  simp only [List.forall_mem_append, List.forall_mem_map]
  refine ⟨⟨⟨⟨⟨⟨⟨⟨⟨⟨opening, fun argument _ => closedLine_checkLine argument⟩, ?_⟩,
    closedLine_contentTypeLines _⟩, ?_⟩, fun binding _ => closedLine_headerLine binding⟩, ?_⟩,
    fun binding _ => closedLine_queryLine binding⟩, ?_⟩,
    fun segment _ => closedLine_segmentLine segment⟩, ?_⟩
  · repeat refine forall_closedLine_cons (by decide) ?_
    exact List.forall_mem_nil _
  · repeat refine forall_closedLine_cons (by decide) ?_
    exact List.forall_mem_nil _
  · repeat refine forall_closedLine_cons (by decide) ?_
    exact List.forall_mem_nil _
  · iterate 3 refine forall_closedLine_cons (by decide) ?_
    refine List.forall_mem_cons.mpr ⟨closedLine_methodLine _, ?_⟩
    repeat refine forall_closedLine_cons (by decide) ?_
    exact List.forall_mem_nil _
  · iterate 3 refine forall_closedLine_cons (by decide) ?_
    refine List.forall_mem_cons.mpr ⟨closedLine_bodyLine _, ?_⟩
    repeat refine forall_closedLine_cons (by decide) ?_
    exact List.forall_mem_nil _

theorem closed_signature {plan : Plan} (named : Closed plan.functionName.toList) :
    Closed (signature plan).toList := by
  have first : Closed (if plan.takesParameters then "parameters" else "_").toList := by
    split
    · exact .literal (by decide)
    · exact .literal (by decide)
  exact closed_append (closed_append (closed_append (closed_append (.literal (by decide)) named)
    (.literal (by decide))) first) (.literal (by decide))

/-- What is open behind some lines. -/
structure Leads (mode : Mode) (lines : List String) (last : Mode) : Prop where
  after : mode.after (unlines lines).toList = last

/-- Going through a first line and then through the others. -/
theorem leads_cons {mode middle last : Mode} {line : List Char} {lines : List String}
    (first : mode.after (line ++ ['\n']) = middle) (others : Leads middle lines last) :
    Leads mode (String.ofList line :: lines) last := by
  have whole : (unlines (String.ofList line :: lines)).toList =
      (line ++ ['\n']) ++ (unlines lines).toList := by
    simp [unlines]
  constructor
  rw [whole, Mode.after_append, first, others.after]

theorem intercalate_append_lineFeed (line : String) (lines : List String) :
    String.intercalate "\n" (line :: lines) ++ "\n" = unlines (line :: lines) := by
  induction lines generalizing line with
  | nil => simp [unlines]
  | cons next lines induction =>
      rw [String.intercalate_cons_cons, String.append_assoc, induction]
      simp [unlines]

/-- The helpers hold documentation of their own, which they close. -/
theorem leads_helperLines : Leads .code helperLines .code := by
  simp only [helperLines, String.reduceAppend]
  repeat
    first
    | refine leads_cons (show _ = Mode.code by decide +kernel) ?_
    | refine leads_cons (show _ = Mode.documentation by decide +kernel) ?_
  exact ⟨rfl⟩

theorem closedLine_helpers : ClosedLine helpers := by
  have lines : helpers ++ "\n" = unlines helperLines := intercalate_append_lineFeed _ _
  rw [ClosedLine, lines]
  exact leads_helperLines.after

theorem closedLine_dispatchLines (baseUrl : String) :
    ∀ line ∈ dispatchLines baseUrl, ClosedLine line := by
  have base : ClosedLine ("BASE_URL = " ++ quoted baseUrl) :=
    closed_around (.literal (by decide)) (by decide) (by decide) baseUrl
  unfold dispatchLines
  refine forall_closedLine_cons (by decide) ?_
  refine List.forall_mem_cons.mpr ⟨closedLine_helpers, ?_⟩
  iterate 5 refine forall_closedLine_cons (by decide) ?_
  exact List.forall_mem_singleton.mpr base

theorem closedLine_entryLine {plan : Plan} (named : Closed plan.functionName.toList) :
    ClosedLine (entryLine plan) := by
  have lead : Closed ("    " ++ quoted plan.operationId ++ ": ").toList :=
    closed_around (.literal (by decide)) (by decide) (by decide) _
  exact closedLine_of_closed (closed_append (closed_append lead named) (.literal (by decide)))

theorem closedLine_indexLines {plans : List Plan}
    (named : ∀ plan ∈ plans, Closed plan.functionName.toList) :
    ∀ line ∈ indexLines plans, ClosedLine line := by
  have listed : exportList = "\"API\", \"MissingParameter\"" := by decide +kernel
  have exports : ClosedLine s!"__all__ = [{exportList}]" := by
    rw [listed]
    exact closedLine_of_closed
      (closed_append (closed_append (.literal (by decide)) (.literal (by decide)))
      (.literal (by decide)))
  unfold indexLines
  rw [List.forall_mem_append, List.forall_mem_append]
  refine ⟨⟨?_, List.forall_mem_map.mpr fun plan member =>
    closedLine_entryLine (named plan member)⟩, ?_⟩
  · repeat refine forall_closedLine_cons (by decide) ?_
    exact List.forall_mem_nil _
  · iterate 2 refine forall_closedLine_cons (by decide) ?_
    exact List.forall_mem_singleton.mpr exports

end ApiCompiler.Module
