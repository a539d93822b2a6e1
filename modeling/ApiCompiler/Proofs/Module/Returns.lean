import ApiCompiler.Module.Assembly
import ApiCompiler.Proofs.Plan.All
import ApiCompiler.Proofs.Plan.Operation
import ApiCompiler.Proofs.Text.Returns

/-!
# Carriage returns in modules

Which texts of a description bring their carriage returns into its module: its title, description
and version, the types of arguments and the media types of bodies, whatever versions it is assembled
for. The code of a module holds none.
-/

namespace ApiCompiler.Module

open Outcome Plan Text

theorem holdsReturn_unlines (lines : List String) :
    holdsReturn (unlines lines) = lines.any holdsReturn := by
  have ended (line : String) : holdsReturn (line ++ "\n") = holdsReturn line := by
    rw [holdsReturn_append, holdsReturn_ofList]
    simp
  rw [unlines, holdsReturn_join, List.any_map]
  simp only [Function.comp_def, ended]

theorem holdsReturn_unlines_eq_false {lines : List String}
    (plain : ∀ line ∈ lines, holdsReturn line = false) : holdsReturn (unlines lines) = false := by
  rw [holdsReturn_unlines, List.any_eq_false]
  intro line member
  simp [plain line member]

theorem forall_plain_cons {line : List Char} {lines : List String}
    (plain : line.contains '\r' = false) (others : ∀ line ∈ lines, holdsReturn line = false) :
    ∀ text ∈ String.ofList line :: lines, holdsReturn text = false :=
  List.forall_mem_cons.mpr ⟨(holdsReturn_ofList line).trans plain, others⟩

theorem holdsReturn_textOf (fragments : List Fragment) :
    holdsReturn (textOf fragments) = fragments.any fun fragment => holdsReturn fragment.text := by
  rw [textOf, holdsReturn_join, List.any_map]
  rfl

/-- What stands between words without carriage returns decides. -/
theorem holdsReturn_between {lead tail : List Char} (opens : lead.contains '\r' = false)
    (closes : tail.contains '\r' = false) (text : String) :
    holdsReturn (String.ofList lead ++ text ++ String.ofList tail) = holdsReturn text := by
  simp only [holdsReturn_append, holdsReturn_ofList, opens, closes, Bool.false_or, Bool.or_false]

theorem holdsReturn_between_both {lead middle tail : List Char} (opens : lead.contains '\r' = false)
    (parts : middle.contains '\r' = false) (closes : tail.contains '\r' = false)
    (first second : String) :
    holdsReturn (String.ofList lead ++ first ++ String.ofList middle ++ second ++
        String.ofList tail) = (holdsReturn first || holdsReturn second) := by
  simp only [holdsReturn_append, holdsReturn_ofList, opens, parts, closes, Bool.false_or,
    Bool.or_false]

theorem holdsReturn_functionName (operationId : String) :
    holdsReturn (Naming.functionName operationId) = false := by
  unfold Naming.functionName
  dsimp only
  split
  · rw [holdsReturn_append, holdsReturn_argumentName, holdsReturn_ofList]
    rfl
  · exact holdsReturn_argumentName operationId

theorem holdsReturn_argumentLookup (argument : String) :
    holdsReturn (argumentLookup argument) = false :=
  (holdsReturn_between rfl rfl _).trans (holdsReturn_quoted argument)

theorem holdsReturn_checkLine (argument : String) : holdsReturn (checkLine argument) = false :=
  (holdsReturn_between rfl rfl _).trans (holdsReturn_quoted argument)

theorem holdsReturn_headerLine (binding : HeaderBinding) :
    holdsReturn (headerLine binding) = false := by
  obtain ⟨key, source⟩ := binding
  cases source with
  | constant value =>
      refine (holdsReturn_between_both rfl rfl rfl (quoted key) (quoted value)).trans ?_
      rw [holdsReturn_quoted, holdsReturn_quoted]
      rfl
  | argument argument =>
      refine (holdsReturn_between_both rfl rfl rfl (quoted key) (argumentLookup argument)).trans ?_
      rw [holdsReturn_quoted, holdsReturn_argumentLookup]
      rfl

theorem holdsReturn_queryLine (binding : QueryBinding) :
    holdsReturn (queryLine binding) = false := by
  obtain ⟨key, argument, ordered⟩ := binding
  have lookup := holdsReturn_argumentLookup argument
  cases ordered with
  | false =>
      refine (holdsReturn_between_both rfl rfl rfl (quoted key) (argumentLookup argument)).trans ?_
      rw [holdsReturn_quoted, lookup]
      rfl
  | true =>
      have sorted : holdsReturn s!"sort_ordered({argumentLookup argument})" = false :=
        (holdsReturn_between rfl rfl _).trans lookup
      refine (holdsReturn_between_both rfl rfl rfl (quoted key)
        s!"sort_ordered({argumentLookup argument})").trans ?_
      rw [holdsReturn_quoted, sorted]
      rfl

theorem holdsReturn_segmentLine (segment : Segment) :
    holdsReturn (segmentLine segment) = false := by
  cases segment with
  | literal value => exact (holdsReturn_between rfl rfl _).trans (holdsReturn_quoted value)
  | parameter name argument =>
      exact (holdsReturn_between rfl rfl _).trans (holdsReturn_quoted argument)

theorem holdsReturn_contentTypeLines (request : RequestPlan) :
    ∀ line ∈ contentTypeLines request, holdsReturn line = false := by
  unfold contentTypeLines
  split
  · rw [List.forall_mem_singleton]
    exact (holdsReturn_between rfl rfl _).trans (holdsReturn_quoted _)
  · exact List.forall_mem_nil _

theorem holdsReturn_bodyLine (request : RequestPlan) : holdsReturn (bodyLine request) = false := by
  unfold bodyLine
  split
  · refine (holdsReturn_between_both rfl rfl rfl (quoted request.bodyField.name)
      (argumentLookup bodyArgument)).trans ?_
    rw [holdsReturn_quoted, holdsReturn_argumentLookup]
    rfl
  · exact holdsReturn_ofList _

theorem holdsReturn_methodLine (method : Method) :
    holdsReturn s!"        \"method\": {quoted method.verb}," = false :=
  (holdsReturn_between rfl rfl _).trans (holdsReturn_quoted _)

theorem holdsReturn_functionLines (plan : Plan) :
    ∀ line ∈ functionLines plan, holdsReturn line = false := by
  have opening : ∀ line ∈ (if plan.takesParameters then
      ["    arguments = dict(parameters or \x7b\x7d)"] else []), holdsReturn line = false := by
    split
    · exact List.forall_mem_singleton.mpr (holdsReturn_ofList _)
    · exact List.forall_mem_nil _
  unfold functionLines
  simp only [List.forall_mem_append, List.forall_mem_map]
  refine ⟨⟨⟨⟨⟨⟨⟨⟨⟨⟨opening, fun argument _ => holdsReturn_checkLine argument⟩, ?_⟩,
    holdsReturn_contentTypeLines _⟩, ?_⟩, fun binding _ => holdsReturn_headerLine binding⟩, ?_⟩,
    fun binding _ => holdsReturn_queryLine binding⟩, ?_⟩,
    fun segment _ => holdsReturn_segmentLine segment⟩, ?_⟩
  · repeat refine forall_plain_cons rfl ?_
    exact List.forall_mem_nil _
  · repeat refine forall_plain_cons rfl ?_
    exact List.forall_mem_nil _
  · repeat refine forall_plain_cons rfl ?_
    exact List.forall_mem_nil _
  · iterate 3 refine forall_plain_cons rfl ?_
    refine List.forall_mem_cons.mpr ⟨holdsReturn_methodLine _, ?_⟩
    repeat refine forall_plain_cons rfl ?_
    exact List.forall_mem_nil _
  · iterate 3 refine forall_plain_cons rfl ?_
    refine List.forall_mem_cons.mpr ⟨holdsReturn_bodyLine _, ?_⟩
    repeat refine forall_plain_cons rfl ?_
    exact List.forall_mem_nil _

theorem holdsReturn_signature (plan : Plan) :
    holdsReturn (signature plan) = holdsReturn plan.functionName := by
  have first : holdsReturn (if plan.takesParameters then "parameters" else "_") = false := by
    split <;> exact holdsReturn_ofList _
  refine (holdsReturn_between_both rfl rfl rfl plan.functionName
    (if plan.takesParameters then "parameters" else "_")).trans ?_
  rw [first, Bool.or_false]

theorem holdsReturn_bullet (argument kind description : String) :
    holdsReturn (bullet argument kind description) =
      (holdsReturn argument || holdsReturn kind) := by
  unfold bullet
  simp only [toString, holdsReturn_append, holdsReturn_proseAt]
  rw [holdsReturn_ofList, holdsReturn_ofList, holdsReturn_ofList, holdsReturn_ofList]
  simp

theorem holdsReturn_argumentBullet (note : ArgumentNote) :
    holdsReturn (argumentBullet note) = (holdsReturn note.argument || keepsReturn note.types) := by
  have optional : holdsReturn (if note.required then "" else ", optional") = false := by
    split <;> exact holdsReturn_ofList _
  unfold argumentBullet
  rw [holdsReturn_bullet]
  simp only [toString, holdsReturn_append, holdsReturn_proseOf, optional]
  rw [holdsReturn_ofList, holdsReturn_ofList]
  simp

/-- The media type of a body is told unless it is empty. -/
theorem holdsReturn_bodyBullet (plan : Plan) :
    holdsReturn (bodyBullet plan) = plan.request.contentType.any keepsReturn := by
  have kind (media : String) : holdsReturn (if media.isEmpty then "" else s!" ({proseOf media})") =
      keepsReturn media := by
    split
    · rename_i empty
      rw [String.isEmpty_iff.mp empty]
      rfl
    · exact (holdsReturn_between rfl rfl _).trans (holdsReturn_proseOf media)
  have named : holdsReturn bodyArgument = false := holdsReturn_ofList _
  unfold bodyBullet
  rw [holdsReturn_bullet, named, kind, Bool.false_or]
  unfold orWhenEmpty
  split
  · rename_i none
    simp [none, keepsReturn_empty]
  · rename_i empty
    simp [empty]
  · rename_i media _ given
    simp [given]

/-- Whether the documentation of a plan brings carriage returns along. -/
def documentsReturn (plan : Plan) : Bool :=
  plan.notes.arguments.any (fun note => keepsReturn note.types) ||
    plan.acceptsBody && plan.request.contentType.any keepsReturn

theorem holdsReturn_describeArguments {plan : Plan}
    (named : ∀ note ∈ plan.notes.arguments, holdsReturn note.argument = false) :
    holdsReturn (describeArguments plan) = (plan.takesParameters && documentsReturn plan) := by
  have bullets : (plan.notes.arguments.map argumentBullet).any holdsReturn =
      plan.notes.arguments.any fun note => keepsReturn note.types := by
    rw [Bool.eq_iff_iff, List.any_map, List.any_eq_true, List.any_eq_true]
    refine exists_congr fun note => and_congr_right fun member => ?_
    rw [Function.comp_apply, holdsReturn_argumentBullet, named note member, Bool.false_or]
  have body : holdsReturn (if plan.acceptsBody then bodyBullet plan else "") =
      (plan.acceptsBody && plan.request.contentType.any keepsReturn) := by
    split
    · rename_i accepts
      rw [holdsReturn_bodyBullet, accepts, Bool.true_and]
    · rename_i refuses
      simp only [Bool.not_eq_true] at refuses
      rw [refuses, Bool.false_and]
      exact holdsReturn_ofList _
  unfold describeArguments
  split
  · rename_i takes
    rw [takes, Bool.true_and, documentsReturn]
    simp only [holdsReturn_append, holdsReturn_join, bullets, body]
    rw [holdsReturn_ofList, holdsReturn_ofList]
    simp
  · rename_i takesNone
    simp only [Bool.not_eq_true] at takesNone
    rw [takesNone, Bool.false_and]
    exact holdsReturn_ofList _

theorem holdsReturn_describeFurther (notes : FunctionNotes) :
    holdsReturn (describeFurther notes) = false := by
  unfold describeFurther
  dsimp only
  split
  · exact holdsReturn_ofList _
  · exact (holdsReturn_between rfl rfl _).trans (holdsReturn_proseAt 4 _)

theorem holdsReturn_describeFailure (plan : Plan) : holdsReturn (describeFailure plan) = false := by
  unfold describeFailure
  split
  · exact holdsReturn_ofList _
  · refine holdsReturn_unlines_eq_false ?_
    repeat refine forall_plain_cons rfl ?_
    exact List.forall_mem_nil _

/-- The documentation of a function brings along what its arguments and its body bring. -/
theorem holdsReturn_functionProse {plan : Plan}
    (named : ∀ note ∈ plan.notes.arguments, holdsReturn note.argument = false) :
    holdsReturn (functionProse plan) = (plan.takesParameters && documentsReturn plan) := by
  have closing : holdsReturn (unlines [
      "        options: Overrides merged into the request description",
      "            (``headers``, ``params``, ``timeout``, ``transport``, ...).",
      "",
      "    Returns:",
      "        The :class:`httpx.Response` of the request."]) = false := by
    refine holdsReturn_unlines_eq_false ?_
    repeat refine forall_plain_cons rfl ?_
    exact List.forall_mem_nil _
  unfold functionProse
  simp only [holdsReturn_append, holdsReturn_proseAt, holdsReturn_describeFurther, closing,
    holdsReturn_describeArguments named, holdsReturn_describeFailure]
  rw [holdsReturn_ofList, holdsReturn_ofList, holdsReturn_ofList]
  simp

/-- The function of a plan brings along what its documentation brings. -/
theorem any_holdsReturn_functionFragments {plan : Plan}
    (called : holdsReturn plan.functionName = false)
    (named : ∀ note ∈ plan.notes.arguments, holdsReturn note.argument = false) :
    (functionFragments plan).any (fun fragment => holdsReturn fragment.text) =
      (plan.takesParameters && documentsReturn plan) := by
  have opening : holdsReturn s!"\n\n{signature plan}\n    \"\"\"" = false :=
    ((holdsReturn_between rfl rfl _).trans (holdsReturn_signature plan)).trans called
  have code : holdsReturn ("\"\"\"\n" ++ unlines (functionLines plan)) = false := by
    rw [holdsReturn_append, holdsReturn_ofList,
      holdsReturn_unlines_eq_false (holdsReturn_functionLines plan)]
    rfl
  simp only [functionFragments, List.any_cons, List.any_nil, Fragment.text, opening, code,
    holdsReturn_functionProse named, Bool.false_or, Bool.or_false]

/-- Whether what is said about an API brings carriage returns into its module. -/
def infoKeepsReturn (info : Info) : Bool :=
  keepsReturn info.title || info.description.any keepsReturn || keepsReturn info.version

theorem holdsReturn_describeApi (description : Option String) :
    holdsReturn (describeApi description) = description.any keepsReturn := by
  unfold describeApi
  split
  · exact holdsReturn_ofList _
  · exact holdsReturn_ofList _
  · exact (holdsReturn_between rfl rfl _).trans (holdsReturn_proseOf _)

theorem holdsReturn_moduleProse (info : Info) :
    holdsReturn (moduleProse info) = infoKeepsReturn info := by
  have version : holdsReturn s!"\nAPI version: {proseOf info.version}\n" =
    keepsReturn info.version :=
    (holdsReturn_between rfl rfl _).trans (holdsReturn_proseOf _)
  have closing : holdsReturn (unlines [
      "",
      "Every operation is exported through the ``API`` mapping, keyed by its",
      "operationId. Each function is a coroutine returning an :class:`httpx.Response`."]) =
        false := by
    refine holdsReturn_unlines_eq_false ?_
    repeat refine forall_plain_cons rfl ?_
    exact List.forall_mem_nil _
  unfold moduleProse
  rw [holdsReturn_append, holdsReturn_append, holdsReturn_append,
    holdsReturn_append, version, closing,
    holdsReturn_describeApi, holdsReturn_proseOf, holdsReturn_ofList, infoKeepsReturn]
  simp

theorem holdsReturn_helpers : holdsReturn helpers = false := by
  have plain : ∀ line ∈ helperLines, holdsReturn line = false := by
    simp only [helperLines, String.reduceAppend]
    repeat refine forall_plain_cons rfl ?_
    exact List.forall_mem_nil _
  rw [helpers, holdsReturn_intercalate (holdsReturn_ofList _), List.any_eq_false]
  intro line member
  simp [plain line member]

theorem holdsReturn_warningLines : holdsReturn (unlines warningLines) = false := by
  refine holdsReturn_unlines_eq_false ?_
  unfold warningLines
  repeat refine forall_plain_cons rfl ?_
  exact List.forall_mem_nil _

theorem holdsReturn_dispatchLines (baseUrl : String) :
    holdsReturn (unlines (dispatchLines baseUrl)) = false := by
  have base : holdsReturn ("BASE_URL = " ++ quoted baseUrl) = false := by
    rw [holdsReturn_append, holdsReturn_quoted, holdsReturn_ofList]
    rfl
  refine holdsReturn_unlines_eq_false ?_
  unfold dispatchLines
  refine forall_plain_cons rfl ?_
  refine List.forall_mem_cons.mpr ⟨holdsReturn_helpers, ?_⟩
  iterate 5 refine forall_plain_cons rfl ?_
  exact List.forall_mem_singleton.mpr base

theorem holdsReturn_exportList : holdsReturn exportList = false := by
  have quotes (name : String) : holdsReturn s!"\"{name}\"" = holdsReturn name :=
    holdsReturn_between rfl rfl name
  have named : ∀ name ∈ exported, holdsReturn name = false := by
    unfold exported
    repeat refine forall_plain_cons rfl ?_
    exact List.forall_mem_nil _
  rw [exportList, holdsReturn_intercalate (holdsReturn_ofList _), List.any_map, List.any_eq_false]
  intro name member
  rw [Function.comp_apply, quotes, named name member]
  exact Bool.false_ne_true

theorem holdsReturn_indexLines {plans : List Plan}
    (called : ∀ plan ∈ plans, holdsReturn plan.functionName = false) :
    holdsReturn (unlines (indexLines plans)) = false := by
  have exports : holdsReturn s!"__all__ = [{exportList}]" = false :=
    (holdsReturn_between rfl rfl _).trans holdsReturn_exportList
  have entries : ∀ line ∈ plans.map entryLine, holdsReturn line = false := by
    rw [List.forall_mem_map]
    intro plan member
    refine (holdsReturn_between_both rfl rfl rfl (quoted plan.operationId)
      plan.functionName).trans ?_
    rw [holdsReturn_quoted, called plan member]
    rfl
  refine holdsReturn_unlines_eq_false ?_
  unfold indexLines
  rw [List.forall_mem_append, List.forall_mem_append]
  refine ⟨⟨?_, entries⟩, ?_⟩
  · repeat refine forall_plain_cons rfl ?_
    exact List.forall_mem_nil _
  · iterate 2 refine forall_plain_cons rfl ?_
    exact List.forall_mem_singleton.mpr exports

/-- A module brings along what the description of its API and the documentation of its functions
bring. -/
theorem holdsReturn_render (info : Info) (baseUrl : String) {plans : List Plan}
    (called : ∀ plan ∈ plans, holdsReturn plan.functionName = false)
    (named : ∀ plan ∈ plans, ∀ note ∈ plan.notes.arguments, holdsReturn note.argument = false) :
    holdsReturn (render info baseUrl plans) =
      (infoKeepsReturn info ||
        plans.any fun plan => plan.takesParameters && documentsReturn plan) := by
  have opening : holdsReturn (unlines warningLines ++ "\"\"\"") = false := by
    rw [holdsReturn_append, holdsReturn_warningLines, holdsReturn_ofList]
    rfl
  have code : holdsReturn ("\"\"\"\n" ++ unlines (dispatchLines baseUrl)) = false := by
    rw [holdsReturn_append, holdsReturn_dispatchLines, holdsReturn_ofList]
    rfl
  have functions : (plans.flatMap functionFragments).any (fun fragment =>
      holdsReturn fragment.text) =
        plans.any fun plan => plan.takesParameters && documentsReturn plan := by
    rw [List.any_flatMap, Bool.eq_iff_iff, List.any_eq_true, List.any_eq_true]
    refine exists_congr fun plan => and_congr_right fun member => ?_
    rw [any_holdsReturn_functionFragments (called plan member) (named plan member)]
  rw [render, holdsReturn_textOf, fragments, List.any_append, List.any_append, functions]
  simp only [List.any_cons, List.any_nil, Fragment.text, opening, code, holdsReturn_moduleProse,
    holdsReturn_indexLines called, Bool.false_or, Bool.or_false]

/-- Whether an operation brings carriage returns into its module: by the types of an argument, or by
the media type of its body. -/
def operationKeepsReturn (operation : Operation) : Bool :=
  (explicitParameters operation).any (fun parameter =>
      keepsReturn (String.intercalate "|" parameter.schemaTypes)) ||
    (operation.body.bind (·.contentTypes.head?)).any keepsReturn

/-- Whether a description brings carriage returns into its module. -/
def descriptionKeepsReturn (description : Description) : Bool :=
  infoKeepsReturn description.info || description.operations.any operationKeepsReturn

section Planned

variable {operation : Operation} {info : Info} {servers : List Server} {versions : Versions}
  {plan : Plan} (planned : ofOperation operation info servers versions = .ok plan)

include planned

theorem holdsReturn_functionName_of_planned : holdsReturn plan.functionName = false := by
  obtain ⟨operationId, server, others, segments, -, -, rfl, -, -, -, rfl⟩ :=
    ofOperation_eq_ok_iff.mp planned
  simp only [build]
  exact holdsReturn_functionName operationId

theorem holdsReturn_argument_of_planned :
    ∀ note ∈ plan.notes.arguments, holdsReturn note.argument = false := by
  obtain ⟨operationId, server, others, segments, -, -, rfl, -, -, -, rfl⟩ :=
    ofOperation_eq_ok_iff.mp planned
  intro note member
  obtain ⟨_, among, rfl⟩ := List.mem_map.mp member
  obtain ⟨parameter, -, rfl⟩ := List.mem_map.mp among
  exact holdsReturn_argumentName parameter.name

theorem documentsReturn_of_planned :
    (plan.takesParameters && documentsReturn plan) = operationKeepsReturn operation := by
  obtain ⟨operationId, server, others, segments, -, -, rfl, -, -, -, rfl⟩ :=
    ofOperation_eq_ok_iff.mp planned
  cases takes : (built operation operationId info server versions segments).takesParameters with
  | false =>
      obtain ⟨none, bodiless⟩ := (takesParameters_built_eq_false_iff ..).mp takes
      simp [operationKeepsReturn, none, bodiless]
  | true =>
      rw [Bool.true_and, documentsReturn, operationKeepsReturn]
      cases body : operation.body <;>
        simp [build, notesOf, argumentNote, withArguments, body, List.any_map, Function.comp_def]

end Planned

section Row

variable {info : Info} {servers : List Server} {versions : Versions} {operations : List Operation}
  {plans : List Plan}
  (each :
    List.Forall₂ (fun operation plan => ofOperation operation info servers versions = .ok plan)
    operations plans)

include each

theorem any_documentsReturn :
    plans.any (fun plan => plan.takesParameters && documentsReturn plan) =
      operations.any operationKeepsReturn := by
  induction each with
  | nil => rfl
  | cons first _ induction =>
      rw [List.any_cons, List.any_cons, documentsReturn_of_planned first, induction]

end Row

/-- A module is the text of the plans of its description, for the first of its servers. -/
theorem exists_plans_of_assemble {description : Description} {versions : Versions} {text : String}
    (assembled : (assemble description versions).result = .ok text) :
    ∃ plans, (ofDescription description versions).result = .ok plans ∧
      ∃ server, firstServer description = .ok server ∧
        text = render description.info server.url plans := by
  simp only [assemble, Logged.result_bind, bind_eq_ok] at assembled
  obtain ⟨plans, planned, server, first, _, -, rendered⟩ := assembled
  exact ⟨plans, planned, server, first, (Except.ok.inj rendered).symm⟩

/-- A module holds carriage returns exactly where its description brings them along. -/
theorem holdsReturn_of_assemble {description : Description} {versions : Versions} {text : String}
    (assembled : (assemble description versions).result = .ok text) :
    holdsReturn text = descriptionKeepsReturn description := by
  obtain ⟨plans, planned, server, -, rfl⟩ := exists_plans_of_assemble assembled
  have each := forall₂_of_ofDescription planned
  have made := exists_operation_of_mem planned
  rw [holdsReturn_render, any_documentsReturn each, descriptionKeepsReturn]
  · intro plan member
    obtain ⟨operation, planned⟩ := made plan member
    exact holdsReturn_functionName_of_planned planned
  · intro plan member
    obtain ⟨operation, planned⟩ := made plan member
    exact holdsReturn_argument_of_planned planned

end ApiCompiler.Module
