import ApiCompiler.Proofs.Module.Closed
import ApiCompiler.Proofs.Plan.Prose

/-!
# Documentation of modules

The prose of a module stands in its documentation and nowhere else. Of two descriptions that differ
in their prose alone, the modules differ in their documentation alone.
-/

namespace ApiCompiler.Module

open Outcome Plan Text

theorem contained_append {left right : String} (first : Contained left.toList)
    (second : Contained right.toList) : Contained (left ++ right).toList := by
  rw [String.toList_append]
  exact first.append second

theorem contained_literal {text : List Char} (contained : Contained text) :
    Contained (String.ofList text).toList := by
  rwa [String.toList_ofList]

theorem contained_join {texts : List String} (each : ∀ text ∈ texts, Contained text.toList) :
    Contained (String.join texts).toList := by
  rw [String.toList_join]
  exact .flatten (List.forall_mem_map.mpr each)

theorem contained_unlines {lines : List String} (each : ∀ line ∈ lines, Contained line.toList) :
    Contained (unlines lines).toList :=
  contained_join (List.forall_mem_map.mpr fun line member =>
    contained_append (each line member) (contained_literal (by decide)))

theorem forall_contained_cons {line : List Char} {lines : List String} (contained : Contained line)
    (others : ∀ line ∈ lines, Contained line.toList) :
    ∀ text ∈ String.ofList line :: lines, Contained text.toList :=
  List.forall_mem_cons.mpr ⟨contained_literal contained, others⟩

/-- Prose between two stretches of text. -/
theorem contained_around {lead text : String} {tail : List Char} (opens : Contained lead.toList)
    (within : Contained text.toList) (closes : Contained tail) :
    Contained (lead ++ text ++ String.ofList tail).toList :=
  contained_append (contained_append opens within) (contained_literal closes)

theorem contained_bullet {argument kind : String} (called : Contained argument.toList)
    (typed : Contained kind.toList) (description : String) :
    Contained (bullet argument kind description).toList :=
  contained_around
    (contained_around (contained_around (contained_literal (by decide)) called (by decide)) typed
      (by decide))
    (contained_proseAt 16 description) (by decide)

theorem contained_argumentBullet {note : ArgumentNote} (called : Contained note.argument.toList) :
    Contained (argumentBullet note).toList := by
  have optional : Contained (if note.required then "" else ", optional").toList := by
    split
    · exact contained_literal (by decide)
    · exact contained_literal (by decide)
  refine contained_bullet called (contained_around ?_ optional (by decide)) _
  exact contained_append (contained_literal (by decide)) (contained_proseOf note.types)

theorem contained_bodyBullet (plan : Plan) : Contained (bodyBullet plan).toList := by
  have kind (media : String) :
      Contained (if media.isEmpty then "" else s!" ({proseOf media})").toList := by
    split
    · exact contained_literal (by decide)
    · exact contained_around (contained_literal (by decide)) (contained_proseOf media) (by decide)
  exact contained_bullet (contained_literal (by decide)) (kind _) _

/-- Whether the documentation of a plan calls its arguments by names that stay inside of it. -/
def NamesContained (plan : Plan) : Prop :=
  ∀ note ∈ plan.notes.arguments, Contained note.argument.toList

theorem contained_describeArguments {plan : Plan} (called : NamesContained plan) :
    Contained (describeArguments plan).toList := by
  have bullets : Contained (String.join (plan.notes.arguments.map argumentBullet)).toList :=
    contained_join (List.forall_mem_map.mpr fun note member =>
      contained_argumentBullet (called note member))
  have body : Contained (if plan.acceptsBody then bodyBullet plan else "").toList := by
    split
    · exact contained_bodyBullet plan
    · exact contained_literal (by decide)
  unfold describeArguments
  split
  · exact contained_around (contained_append (contained_literal (by decide)) bullets)
      body (by decide)
  · exact contained_literal (by decide)

theorem contained_describeFurther (notes : FunctionNotes) :
    Contained (describeFurther notes).toList := by
  unfold describeFurther
  dsimp only
  split
  · exact contained_literal (by decide)
  · exact contained_around (contained_literal (by decide)) (contained_proseAt 4 _) (by decide)

theorem contained_describeFailure (plan : Plan) : Contained (describeFailure plan).toList := by
  unfold describeFailure
  split
  · exact contained_literal (by decide)
  · refine contained_unlines ?_
    repeat refine forall_contained_cons (by decide) ?_
    exact List.forall_mem_nil _

theorem contained_functionProse {plan : Plan} (called : NamesContained plan) :
    Contained (functionProse plan).toList := by
  have summary :
      Contained (proseAt 4 (orWhenEmpty plan.notes.summary plan.operationId) ++ "\n").toList :=
    contained_append (contained_proseAt 4 _) (contained_literal (by decide))
  have closing : Contained (unlines [
      "        options: Overrides merged into the request description",
      "            (``headers``, ``params``, ``timeout``, ``transport``, ...).",
      "",
      "    Returns:",
      "        The :class:`httpx.Response` of the request."]).toList := by
    refine contained_unlines ?_
    repeat refine forall_contained_cons (by decide) ?_
    exact List.forall_mem_nil _
  exact contained_append
    (contained_append
      (contained_append
        (contained_append (contained_around summary (contained_describeFurther _) (by decide))
          (contained_describeArguments called))
        closing)
      (contained_describeFailure plan))
    (contained_literal (by decide))

theorem contained_describeApi (description : Option String) :
    Contained (describeApi description).toList := by
  unfold describeApi
  split
  · exact contained_literal (by decide)
  · exact contained_literal (by decide)
  · exact contained_around (contained_literal (by decide)) (contained_proseOf _) (by decide)

theorem contained_moduleProse (info : Info) : Contained (moduleProse info).toList := by
  have title : Contained (proseOf info.title ++ "\n").toList :=
    contained_append (contained_proseOf _) (contained_literal (by decide))
  have version : Contained s!"\nAPI version: {proseOf info.version}\n".toList :=
    contained_around (contained_literal (by decide)) (contained_proseOf _) (by decide)
  have closing : Contained (unlines [
      "",
      "Every operation is exported through the ``API`` mapping, keyed by its",
      "operationId. Each function is a coroutine returning an :class:`httpx.Response`."
      ]).toList := by
    refine contained_unlines ?_
    repeat refine forall_contained_cons (by decide) ?_
    exact List.forall_mem_nil _
  exact contained_append
    (contained_append (contained_append title (contained_describeApi _)) version) closing

/-- The characters of a fragment of code. -/
def codeOf : Fragment → List Char
  | .code text => text.toList
  | .prose _ => []

/-- Fragments through which prose is met only where documentation is open, which it does not end. -/
inductive Documented : Mode → List Fragment → Mode → Prop where
  | nil (mode : Mode) : Documented mode [] mode
  | code {mode middle last : Mode} {text : String} {rest : List Fragment}
      (through : mode.after text.toList = middle) (others : Documented middle rest last) :
      Documented mode (.code text :: rest) last
  | prose {last : Mode} {text : String} {rest : List Fragment} (contained : Contained text.toList)
      (others : Documented .documentation rest last) :
      Documented .documentation (.prose text :: rest) last

namespace Documented

theorem append {mode middle last : Mode} {first second : List Fragment}
    (before : Documented mode first middle) (behind : Documented middle second last) :
    Documented mode (first ++ second) last := by
  induction before with
  | nil mode => exact behind
  | code through _ induction => exact .code through (induction behind)
  | prose contained _ induction => exact .prose contained (induction behind)

theorem flatMap {mode : Mode} {plans : List Plan} {fragments : Plan → List Fragment}
    (each : ∀ plan ∈ plans, Documented mode (fragments plan) mode) :
    Documented mode (plans.flatMap fragments) mode := by
  induction plans with
  | nil => exact .nil mode
  | cons plan plans induction =>
      obtain ⟨first, others⟩ := List.forall_mem_cons.mp each
      exact first.append (induction others)

/-- Of documented fragments, the code alone stays. -/
theorem scan_textOf {mode last : Mode} {fragments : List Fragment}
    (documented : Documented mode fragments last) :
    mode.scan (textOf fragments).toList = mode.scan (fragments.flatMap codeOf) := by
  have cons (fragment : Fragment) (rest : List Fragment) :
      (textOf (fragment :: rest)).toList = fragment.text.toList ++ (textOf rest).toList := by
    simp [textOf]
  induction documented with
  | nil mode => rfl
  | code through _ induction =>
      rw [cons, List.flatMap_cons, Mode.scan_append, Mode.scan_append]
      simp only [Fragment.text, codeOf, through, induction]
  | prose contained _ induction =>
      rw [cons, List.flatMap_cons, Mode.scan_append, Fragment.text, contained.after, contained.scan]
      exact induction

end Documented

/-- Documentation that is opened behind code. -/
theorem after_opening {lead : String} {tail : List Char} (closed : Closed lead.toList)
    (opens : Mode.code.after tail = .documentation) :
    Mode.code.after (lead ++ String.ofList tail).toList = .documentation := by
  rw [String.toList_append, String.toList_ofList, Mode.after_append, closed, opens]

/-- Code behind the end of documentation. -/
theorem after_closing {code : String} (closed : Closed code.toList) :
    Mode.documentation.after ("\"\"\"\n" ++ code).toList = .code := by
  have ends : Mode.documentation.after "\"\"\"\n".toList = .code := by decide
  rw [String.toList_append, Mode.after_append, ends, closed]

theorem documented_functionFragments {plan : Plan} (named : Closed plan.functionName.toList)
    (called : NamesContained plan) : Documented .code (functionFragments plan) .code := by
  have opening : Mode.code.after s!"\n\n{signature plan}\n    \"\"\"".toList = .documentation :=
    after_opening (closed_append (.literal (by decide)) (closed_signature named)) (by decide)
  have closing := after_closing (closed_unlines (closedLine_functionLines plan))
  exact .code opening (.prose (contained_functionProse called) (.code closing (.nil _)))

theorem documented_fragments (info : Info) (baseUrl : String) {plans : List Plan}
    (named : ∀ plan ∈ plans, Closed plan.functionName.toList)
    (called : ∀ plan ∈ plans, NamesContained plan) :
    Documented .code (fragments info baseUrl plans) .code := by
  have warning : Closed (unlines warningLines).toList := by
    refine closed_unlines ?_
    unfold warningLines
    repeat refine forall_closedLine_cons (by decide) ?_
    exact List.forall_mem_nil _
  have opening : Mode.code.after (unlines warningLines ++ "\"\"\"").toList = .documentation :=
    after_opening warning (by decide)
  have closing := after_closing (closed_unlines (closedLine_dispatchLines baseUrl))
  have functions : Documented .code (plans.flatMap functionFragments) .code :=
    .flatMap fun plan member =>
      documented_functionFragments (named plan member) (called plan member)
  have index : Documented .code [.code (unlines (indexLines plans))] .code :=
    .code (closed_unlines (closedLine_indexLines named)) (.nil _)
  have head : Documented .code [.code (unlines warningLines ++ "\"\"\""), .prose (moduleProse info),
      .code ("\"\"\"\n" ++ unlines (dispatchLines baseUrl))] .code :=
    .code opening (.prose (contained_moduleProse info) (.code closing (.nil _)))
  exact (head.append functions).append index

/-- Without its documentation, a module is its code. -/
theorem withoutDocumentation_render (info : Info) (baseUrl : String) {plans : List Plan}
    (named : ∀ plan ∈ plans, Closed plan.functionName.toList)
    (called : ∀ plan ∈ plans, NamesContained plan) :
    withoutDocumentation (render info baseUrl plans) =
      Mode.code.scan ((fragments info baseUrl plans).flatMap codeOf) :=
  (documented_fragments info baseUrl named called).scan_textOf

theorem signature_withoutNotes (plan : Plan) : signature (withoutNotes plan) = signature plan := rfl

theorem functionLines_withoutNotes (plan : Plan) :
    functionLines (withoutNotes plan) = functionLines plan := rfl

theorem entryLine_withoutNotes (plan : Plan) : entryLine (withoutNotes plan) = entryLine plan := rfl

theorem flatMap_codeOf_functionFragments (plan : Plan) :
    (functionFragments (withoutNotes plan)).flatMap codeOf =
      (functionFragments plan).flatMap codeOf := by
  simp only [functionFragments, List.flatMap_cons, codeOf, signature_withoutNotes,
    functionLines_withoutNotes]

theorem indexLines_withoutNotes (plans : List Plan) :
    indexLines (plans.map withoutNotes) = indexLines plans := by
  simp only [indexLines, List.map_map, Function.comp_def, entryLine_withoutNotes]

/-- The code of a module depends neither on what is said about its API nor on the notes of its
plans. -/
theorem flatMap_codeOf_fragments (info other : Info) (baseUrl : String) (plans : List Plan) :
    (fragments info baseUrl (plans.map withoutNotes)).flatMap codeOf =
      (fragments other baseUrl plans).flatMap codeOf := by
  simp only [fragments, List.flatMap_append, List.flatMap_cons, codeOf, List.flatMap_map,
    List.flatMap_assoc, flatMap_codeOf_functionFragments, indexLines_withoutNotes]

section Planned

variable {description : Description} {versions : Versions} {plans : List Plan}
  (planned : (ofDescription description versions).result = .ok plans)

include planned

theorem closed_functionName_of_planned : ∀ plan ∈ plans, Closed plan.functionName.toList := by
  intro plan member
  obtain ⟨operation, made⟩ := exists_operation_of_mem planned plan member
  rw [(names_of_ofOperation made).2.2]
  exact closed_of_named (Naming.isNameCharacter_of_mem_functionName plan.operationId)

theorem namesContained_of_planned : ∀ plan ∈ plans, NamesContained plan := by
  intro plan member
  obtain ⟨operation, made⟩ := exists_operation_of_mem planned plan member
  obtain ⟨operationId, server, others, segments, -, -, -, -, -, -, rfl⟩ :=
    ofOperation_eq_ok_iff.mp made
  intro note held
  obtain ⟨_, among, rfl⟩ := List.mem_map.mp held
  obtain ⟨parameter, -, rfl⟩ := List.mem_map.mp among
  exact contained_of_named (Naming.isNameCharacter_of_mem_argumentName parameter.name)

end Planned

/-- Of two descriptions that differ in their prose alone, the modules are the same once their
documentation is deleted: prose cannot change the code of a module. -/
theorem withoutDocumentation_eq_of_withoutProse_eq {first second : Description}
    {versions : Versions}
    {text other : String} (same : first.withoutProse = second.withoutProse)
    (assembled : (assemble first versions).result = .ok text)
    (also : (assemble second versions).result = .ok other) :
    withoutDocumentation text = withoutDocumentation other := by
  simp only [assemble, Logged.result_bind, bind_eq_ok] at assembled also
  obtain ⟨plans, planned, server, served, _, -, rendered⟩ := assembled
  obtain ⟨others, planned', server', served', _, -, rendered'⟩ := also
  obtain rfl := Except.ok.inj rendered
  obtain rfl := Except.ok.inj rendered'
  have plansAlike := map_withoutNotes_eq_of_ofDescription same planned planned'
  have servers : first.servers = second.servers := by
    change first.withoutProse.servers = second.withoutProse.servers
    rw [same]
  have sameServer : firstServer first = firstServer second := by
    rw [firstServer, firstServer, servers]
  have serversAlike : server = server' :=
    Except.ok.inj ((served.symm.trans sameServer).trans served')
  calc withoutDocumentation (render first.info server.url plans)
      = Mode.code.scan ((fragments first.info server.url plans).flatMap codeOf) :=
        withoutDocumentation_render _ _ (closed_functionName_of_planned planned)
          (namesContained_of_planned planned)
    _ = Mode.code.scan
          ((fragments first.info server.url (plans.map withoutNotes)).flatMap codeOf) := by
        rw [flatMap_codeOf_fragments first.info first.info]
    _ = Mode.code.scan ((fragments second.info server'.url others).flatMap codeOf) := by
        rw [plansAlike, serversAlike, flatMap_codeOf_fragments first.info second.info]
    _ = withoutDocumentation (render second.info server'.url others) :=
        (withoutDocumentation_render _ _ (closed_functionName_of_planned planned')
          (namesContained_of_planned planned')).symm

def plainDescription : Description where
  info := shopInfo
  servers := shopServers
  operations := [ordersOperation]
  formatVersion := "3.0.3"

/-- The same API, with prose that looks like the end of documentation and like code. -/
def hostileDescription : Description where
  info := { shopInfo with
    title := "Shop\"\"\"\nimport os\n\"\"\"", description := some "\\" }
  servers := shopServers
  operations := [{ ordersOperation with
    summary := some "\\\"\"\"", description := some "\"\"\"\r\n'''# \x7b\x7d"
    parameters := ordersOperation.parameters.map fun parameter =>
      { parameter with description := some "\"\"\\", schemaTypes := ["\"", "\"\""] } }]
  formatVersion := "3.0.3"

theorem withoutDocumentation_hostileDescription :
    hostileDescription ≠ plainDescription ∧
      hostileDescription.withoutProse = plainDescription.withoutProse ∧
      ∃ text other, (assemble hostileDescription shopVersions).result = .ok text ∧
        (assemble plainDescription shopVersions).result = .ok other ∧
        withoutDocumentation text = withoutDocumentation other := by
  have same : hostileDescription.withoutProse = plainDescription.withoutProse := by decide +kernel
  obtain ⟨text, assembled⟩ :
      ∃ text, (assemble hostileDescription shopVersions).result = .ok text :=
    exists_eq_ok_of_isSome (by decide +kernel)
  obtain ⟨other, also⟩ : ∃ other, (assemble plainDescription shopVersions).result = .ok other :=
    exists_eq_ok_of_isSome (by decide +kernel)
  exact ⟨by decide +kernel, same, text, other, assembled, also,
    withoutDocumentation_eq_of_withoutProse_eq same assembled also⟩

end ApiCompiler.Module
