import ApiCompiler.Proofs.CommandLine.Spared
import ApiCompiler.Proofs.Console.Streams
import ApiCompiler.Proofs.Json.Printed
import ApiCompiler.Proofs.Naming
import ApiCompiler.Proofs.Plan.All
import ApiCompiler.Proofs.Plan.WellFormed
import ApiCompiler.Proofs.Text.Pieces

/-!
# Plans that are shown

A command line that asks for the plans of a document shows them on the output, and nothing else.
What is shown in full is read back to the records of the plans.

In a table, plans are shown on lines of cells, under a line of headers. Cut at its line feeds and
tabs, what is shown gives the rows again, as long as the texts that the document brings into them
hold neither. Where there are no plans, not even the headers are shown.
-/

namespace ApiCompiler

open Json Outcome Text Work

/-- Items that are shown without numbers are so shown as a list. -/
theorem numberless_list_map {α : Type} {shown : α → Value} (each : ∀ item, Numberless (shown item))
    (items : List α) : Numberless (.list (items.map shown)) :=
  .list (List.forall_mem_map.mpr fun item _ => each item)

theorem numberless_of_option {shown : Option String → Value} (absent : Numberless (shown none))
    (present : ∀ text, Numberless (shown (some text))) : ∀ text, Numberless (shown text)
  | none => absent
  | some text => present text

theorem Segment.numberless_record : ∀ segment : Segment, Numberless segment.record
  | .literal _ => .map (by simp) (by simp [Numberless.str])
  | .parameter _ _ => .map (by simp) (by simp [Numberless.str])

theorem HeaderSource.numberless_record : ∀ source : HeaderSource, Numberless source.record
  | .constant _ => .map (by simp) (by simp [Numberless.str])
  | .argument _ => .map (by simp) (by simp [Numberless.str])

theorem HeaderBinding.numberless_record (binding : HeaderBinding) : Numberless binding.record :=
  .map (by simp) (by simp [Numberless.str, binding.source.numberless_record])

theorem QueryBinding.numberless_record (binding : QueryBinding) : Numberless binding.record :=
  .map (by simp) (by simp [Numberless.str, Numberless.bool])

theorem RequestPlan.numberless_record (request : RequestPlan) : Numberless request.record := by
  have body : Numberless (if request.carriesBody then .str bodyArgument else .null) := by
    split
    · exact .str _
    · exact .null
  refine .map (by simp) ?_
  simp only [List.forall_mem_cons]
  exact ⟨.str _, .str _, numberless_list_map Segment.numberless_record _,
    numberless_list_map HeaderBinding.numberless_record _,
    numberless_list_map QueryBinding.numberless_record _, body, .str _,
    numberless_of_option .null .str _,
    numberless_list_map (fun _ => .map (by simp) (by simp [Numberless.str])) _,
    List.forall_mem_nil _⟩

theorem ArgumentNote.numberless_record (note : ArgumentNote) : Numberless note.record := by
  refine .map (by simp) ?_
  simp only [List.forall_mem_cons]
  exact ⟨.str _, .str _, .str _, .str _, .bool _, numberless_of_option .null .str _,
    List.forall_mem_nil _⟩

theorem FunctionNotes.numberless_record (notes : FunctionNotes) : Numberless notes.record := by
  refine .map (by simp) ?_
  simp only [List.forall_mem_cons]
  exact ⟨numberless_of_option .null .str _, numberless_of_option .null .str _,
    numberless_list_map ArgumentNote.numberless_record _, numberless_of_option .null .str _,
    List.forall_mem_nil _⟩

theorem Plan.numberless_record (plan : Plan) : Numberless plan.record := by
  refine .map (by simp) ?_
  simp only [List.forall_mem_cons]
  exact ⟨.str _, .str _, numberless_list_map .str _, .bool _, plan.request.numberless_record,
    plan.notes.numberless_record, List.forall_mem_nil _⟩

/-- Notices are recorded, and then there is what the work came to. -/
theorem Session.report_run {α : Type} {work : Logged α} {value : α} (session : Session)
    (success : work.result = .ok value) (machine : Machine) :
    ∃ after, (session.report work).run.run machine = (.ok value, after) := by
  have noted (notices : List Notice) (machine : Machine) : ∃ after,
      (notices.forM fun notice =>
        session.put (.record notice.channel notice.level notice.message)).run.run machine =
        (.ok (), after) := by
    induction notices generalizing machine with
    | nil => exact ⟨machine, rfl⟩
    | cons notice notices induction =>
        obtain ⟨after, told⟩ := induction _
        exact ⟨after, (Action.run_bind_of_ok (put_run rfl machine)).trans told⟩
  obtain ⟨after, told⟩ := noted work.notices machine
  refine ⟨after, ?_⟩
  rw [report, success, Action.run_bind_of_ok told]
  rfl

namespace CommandLine

variable {machine : Machine} {words : List String} {session : Session} {plans : List Plan}

/-- The plans of a document that can be read, described and planned, where there are bytes to write
what a format shows of them. -/
def plansOf (format : Format) (source : String) (versions : Versions) (machine : Machine) :
    Option (List Plan) := do
  let document ← ((Document.load source).run machine).1.result.toOption
  let description ← (Description.ofDocument document).result.toOption
  let plans ← (Plan.ofDescription description versions).result.toOption
  if Spelled document format plans then some plans else none

theorem plansOf_eq_some_iff {format : Format} {source : String} {versions : Versions} :
    plansOf format source versions machine = some plans ↔ ∃ document description,
      ((Document.load source).run machine).1.result = .ok document ∧
        (Description.ofDocument document).result = .ok description ∧
        (Plan.ofDescription description versions).result = .ok plans ∧
        Spelled document format plans := by
  simp only [plansOf, Option.bind_eq_bind, Option.bind_eq_some_iff, toOption_eq_some,
    Option.ite_none_right_eq_some, Option.some.injEq]
  constructor
  · rintro ⟨document, loaded, description, described, _, planned, written, rfl⟩
    exact ⟨document, description, loaded, described, planned, written⟩
  · rintro ⟨document, description, loaded, described, planned, written⟩
    exact ⟨document, loaded, description, described, plans, planned, written, rfl⟩

/-- A command line asks for the plans of a document, and on a machine it opens a session to show
them. -/
def Inspects (words : List String) (machine : Machine) (session : Session)
    (plans : List Plan) : Prop :=
  ∃ manner source versions opened, Asks words manner (.inspect source versions) ∧
    (openSession manner).run.run machine = (.ok session, opened) ∧
    plansOf session.console.format source versions opened = some plans

theorem showSpelled_eq {document : Document}
    (written : Spelled document session.console.format plans) :
    showSpelled session document plans = showPlans session plans :=
  if_pos written

/-- Nothing is on the output before the plans are shown, and nothing comes after on either
stream. -/
theorem run_of_inspects {written : Written} (inspects : Inspects words machine session plans)
    (shows : ∀ machine, (showPlans session plans).run.run machine =
      (.ok (), machine.tell written)) :
    ∃ after, (run words).run.run machine = (.ok .success, after) ∧
      after.output = machine.output ++ written.output ∧
      ∃ notes, after.diagnostics = notes ++ written.diagnostics := by
  obtain ⟨manner, source, versions, opened, asks, opening, there⟩ := inspects
  obtain ⟨document, description, loaded, described, planned, spelled⟩ :=
    plansOf_eq_some_iff.mp there
  obtain ⟨reported, reporting⟩ := session.report_run loaded ((Document.load source).run opened).2
  obtain ⟨noted, noting⟩ := session.report_run described reported
  obtain ⟨ready, readying⟩ := session.report_run planned noted
  have spared : Machine.Spared machine ready :=
    (((((spares_openSession manner).spared opening).trans
      (Document.spares_load source opened)).trans
      ((session.spares_report _).spared reporting)).trans
        ((session.spares_report _).spared noting)).trans ((session.spares_report _).spared readying)
  refine ⟨ready.tell written, ?_, congrArg (· ++ written.output) spared.output,
    ready.diagnostics, rfl⟩
  rw [run_of_asks asks]
  refine conclude_run_of_ok ?_
  rw [Action.run_bind_of_ok opening, execute, inspect, Action.run_bind_of_ok (run_lift _ _),
    Action.run_bind_of_ok reporting, Action.run_bind_of_ok noting, Action.run_bind_of_ok readying,
    showSpelled_eq spelled, Action.run_bind_of_ok (shows ready)]
  rfl

/-- Whatever the plans, what is shown of them in full is a text that is read to the list of their
records, and a run that shows them writes this text to the output, and nothing else. -/
theorem read_shownPlans (plans : List Plan) :
    ∃ text, Json.read text = .ok (.list (plans.map Plan.record)) ∧
      (∀ (session : Session) (machine : Machine), session.console.format = .json →
        (showPlans session plans).run.run machine = (.ok (), machine.tell ⟨text, ""⟩)) ∧
      ∀ (words : List String) (machine : Machine) (session : Session),
        Inspects words machine session plans → session.console.format = .json →
          ∃ after, (run words).run.run machine = (.ok .success, after) ∧
            after.output = machine.output ++ text := by
  obtain ⟨text, printed, reads⟩ :=
    Console.read_indented (numberless_list_map Plan.numberless_record plans)
  have shows (session : Session) (machine : Machine) (full : session.console.format = .json) :
      (showPlans session plans).run.run machine = (.ok (), machine.tell ⟨text, ""⟩) := by
    rw [showPlans, if_pos full]
    refine Session.put_run ?_ machine
    rw [Session.write, printed]
    rfl
  refine ⟨text, reads, shows, fun words machine session inspects full => ?_⟩
  obtain ⟨after, ran, output, -⟩ := run_of_inspects inspects (shows session · full)
  exact ⟨after, ran, output⟩

/-- A machine with a document. -/
def machineWith (document : String) : Machine where
  files := ⟨[(["home"], .directory), (["home", "s.json"], .file (.text document))]⟩
  workingDirectory := ["home"]
  environment := [("XDG_CONFIG_HOME", "/home")]
  system := "Linux"
  time := default
  input := .text ""
  reply := fun _ => .unreached ""
  mishaps := []
  output := ""
  diagnostics := ""

/-- A document with quotation marks and a letter beyond ASCII in the identifier of its only
operation. -/
def quotedDocument : String :=
  "\x7b\"openapi\":\"3.0\",\"info\":\x7b\"title\":\"T\",\"version\":\"1\"\x7d,\"servers\":[\x7b" ++
  "\"url\":\"/\"\x7d],\"paths\":\x7b\"/x\":\x7b\"get\":\x7b\"operationId\":\"a \\\"é\\\"\"\x7d" ++
  "\x7d\x7d\x7d"

theorem exists_plansOf_quotedDocument (format : Format) :
    ∃ plan, plansOf format "s.json" ⟨none, none⟩ (machineWith quotedDocument) = some [plan] ∧
      plan.operationId = "a \"é\"" ∧ plan.request.segments = [.literal "x"] := by
  have there : (plansOf format "s.json" ⟨none, none⟩ (machineWith quotedDocument)).map
      (·.map fun plan => (plan.operationId, plan.request.segments)) =
      some [("a \"é\"", [.literal "x"])] := by
    cases format <;> decide +kernel
  obtain ⟨plans, planned, same⟩ := Option.map_eq_some_iff.mp there
  obtain ⟨plan, rfl, texts⟩ := List.map_eq_singleton_iff.mp same
  exact ⟨plan, planned, (Prod.mk.inj texts).1, (Prod.mk.inj texts).2⟩

theorem read_shownPlans_quotedDocument :
    ∃ (plan : Plan) (after : Machine), plan.operationId = "a \"é\"" ∧
      (run ["--json", "inspect", "s.json"]).run.run (machineWith quotedDocument) =
        (.ok .success, after) ∧
      Json.read after.output = .ok (.list [plan.record]) := by
  obtain ⟨plan, planned, named, -⟩ := exists_plansOf_quotedDocument _
  have inspects : Inspects ["--json", "inspect", "s.json"] (machineWith quotedDocument)
      (.install (.ofFormat .json false false)) [plan] :=
    ⟨⟨true, false, false, false⟩, "s.json", ⟨none, none⟩, machineWith quotedDocument,
      ⟨.inspect, ["s.json"], by decide +kernel⟩, rfl, planned⟩
  obtain ⟨text, reads, -, runs⟩ := read_shownPlans [plan]
  obtain ⟨after, ran, output⟩ := runs _ _ _ inspects rfl
  refine ⟨plan, after, named, ran, ?_⟩
  rw [output, show (machineWith quotedDocument).output = "" from rfl, String.empty_append]
  exact reads

end CommandLine

namespace Console

/-- The lines of a text that line feeds end, and what stands behind the last of them if there is
anything. -/
def linesOf (text : List Char) : List (List Char) :=
  if (splitAt '\n' text).getLast? = some [] then (splitAt '\n' text).dropLast else splitAt '\n' text

/-- The rows that a text is cut into at its line feeds and tabs. -/
def rowsOf (text : String) : List (List String) :=
  (linesOf text.toList).map fun line => (splitAt '\t' line).map String.ofList

/-- Neither a tab nor a line feed stands in a text. -/
def IsCell (text : String) : Prop :=
  '\t' ∉ text.toList ∧ '\n' ∉ text.toList

instance (text : String) : Decidable (IsCell text) :=
  inferInstanceAs (Decidable (_ ∧ _))

theorem isCell_append {left right : String} (first : IsCell left) (second : IsCell right) :
    IsCell (left ++ right) := by
  simp only [IsCell, String.toList_append, List.mem_append, not_or]
  exact ⟨⟨first.1, second.1⟩, first.2, second.2⟩

theorem isCell_intercalate {separator : String} (between : IsCell separator) {texts : List String}
    (each : ∀ text ∈ texts, IsCell text) : IsCell (String.intercalate separator texts) :=
  ⟨not_mem_intercalate between.1 fun text member => (each text member).1,
    not_mem_intercalate between.2 fun text member => (each text member).2⟩

theorem endLine_of_not_mem {text : String} (whole : '\n' ∉ text.toList) :
    endLine text = text ++ "\n" := by
  have unended : text.endsWith "\n" = false := by
    unfold String.endsWith
    rw [String.Slice.endsWith_string_eq_false_iff, String.copy_toSlice]
    exact fun suffix => whole (suffix.subset (by simp))
  rw [endLine, unended]
  rfl

/-- Lines that line feeds end are cut apart, and nothing stands behind them. -/
theorem splitAt_flatMap_lines {lines : List (List Char)} (whole : ∀ line ∈ lines, '\n' ∉ line) :
    splitAt '\n' (lines.flatMap (· ++ ['\n'])) = lines ++ [[]] := by
  induction lines with
  | nil => rfl
  | cons line lines induction =>
      obtain ⟨first, others⟩ := List.forall_mem_cons.mp whole
      rw [List.flatMap_cons, List.append_assoc, List.singleton_append, splitAt_append_cons,
        splitAt_eq_singleton first, induction others]
      rfl

theorem linesOf_flatMap {lines : List (List Char)} (whole : ∀ line ∈ lines, '\n' ∉ line) :
    linesOf (lines.flatMap (· ++ ['\n'])) = lines := by
  rw [linesOf, splitAt_flatMap_lines whole, if_pos List.getLast?_concat, List.dropLast_concat]

theorem newline_not_mem_row {row : List String} (cells : ∀ cell ∈ row, IsCell cell) :
    '\n' ∉ (String.intercalate "\t" row).toList :=
  not_mem_intercalate (by decide) fun cell member => (cells cell member).2

/-- The line of a row is cut into its cells. -/
theorem splitAt_intercalate {row : List String} (filled : row ≠ [])
    (cells : ∀ cell ∈ row, IsCell cell) :
    (splitAt '\t' (String.intercalate "\t" row).toList).map String.ofList = row := by
  have pieces : splitAt '\t' (joinWith "\t".toList (row.map String.toList)) =
    row.map String.toList := by
    refine splitAt_joinWith (by simpa using filled) (List.forall_mem_map.mpr fun cell member => ?_)
    exact (cells cell member).1
  rw [toList_intercalate, pieces, List.map_map]
  exact List.map_id'' (fun cell => String.ofList_toList) row

/-- Rows of cells come back from the lines that they are written on. -/
theorem rowsOf_join {rows : List (List String)} (filled : ∀ row ∈ rows, row ≠ [])
    (cells : ∀ row ∈ rows, ∀ cell ∈ row, IsCell cell) :
    rowsOf (String.join (rows.map fun row => endLine (String.intercalate "\t" row))) = rows := by
  have whole : ∀ line ∈ rows.map fun row => (String.intercalate "\t" row).toList, '\n' ∉ line :=
    List.forall_mem_map.mpr fun row member => newline_not_mem_row (cells row member)
  have written : (String.join (rows.map fun row => endLine (String.intercalate "\t" row))).toList =
      (rows.map fun row => (String.intercalate "\t" row).toList).flatMap (· ++ ['\n']) := by
    rw [String.toList_join, List.flatMap_map, List.flatMap_map]
    refine List.flatMap_congr fun row member => ?_
    rw [endLine_of_not_mem (newline_not_mem_row (cells row member)), String.toList_append]
    rfl
  rw [rowsOf, written, linesOf_flatMap whole, List.map_map]
  conv => rhs; rw [← List.map_id rows]
  exact List.map_congr_left fun row member =>
    splitAt_intercalate (filled row member) (cells row member)

end Console

namespace CommandLine

open Call Console Plan

/-- The texts in the row of a plan that are the document's own: the identifier, and the pieces of
the path that nothing fills. -/
def givenTexts (plan : Plan) : List String :=
  plan.operationId :: plan.request.segments.filterMap fun
    | .literal value => some value
    | .parameter .. => none

theorem isCell_of_isNameCharacter {text : String}
    (named : ∀ character ∈ text.toList, Naming.isNameCharacter character = true) : IsCell text :=
  ⟨fun tab => absurd (named _ tab) (by decide),
    fun lineFeed => absurd (named _ lineFeed) (by decide)⟩

theorem isCell_argumentName (name : String) : IsCell (Naming.argumentName name) :=
  isCell_of_isNameCharacter (Naming.isNameCharacter_of_mem_argumentName name)

theorem isCell_listed {names : List String} (each : ∀ name ∈ names, IsCell name) :
    IsCell (listed names) := by
  unfold listed
  dsimp only
  split
  · decide
  · exact isCell_intercalate (by decide) each

theorem isCell_urlTemplate {request : RequestPlan}
    (literals : ∀ value, Segment.literal value ∈ request.segments → IsCell value)
    (arguments : ∀ name argument, Segment.parameter name argument ∈ request.segments →
      IsCell argument) :
    IsCell request.urlTemplate := by
  refine isCell_intercalate (by decide) (List.forall_mem_map.mpr fun segment member => ?_)
  cases segment with
  | literal value => exact literals value member
  | parameter name argument =>
      exact isCell_append (isCell_append (by decide) (arguments name argument member)) (by decide)

/-- No other cell of a plan holds a tab or a line feed. -/
theorem isCell_of_mem_tableRow {operation : Operation} {info : Info} {servers : List Server}
    {versions : Versions} {plan : Plan}
    (planned : ofOperation operation info servers versions = .ok plan)
    (given : ∀ text ∈ givenTexts plan, IsCell text) : ∀ cell ∈ tableRow plan, IsCell cell := by
  have functionName : IsCell plan.functionName := by
    rw [(names_of_ofOperation planned).2.2]
    exact isCell_of_isNameCharacter (Naming.isNameCharacter_of_mem_functionName _)
  have verb : IsCell plan.request.method.verb := by
    cases plan.request.method <;> decide
  obtain ⟨own, literals⟩ := List.forall_mem_cons.mp given
  obtain ⟨operationId, server, others, segments, -, -, -, -, -, cut, rfl⟩ :=
    ofOperation_eq_ok_iff.mp planned
  obtain ⟨matched, -, -⟩ := segmentsOf_eq_ok_iff.mp cut
  have template :
      IsCell (built operation operationId info server versions segments).request.urlTemplate := by
    refine isCell_urlTemplate (fun value member => ?_) fun name argument member => ?_
    · exact literals value (List.mem_filterMap.mpr ⟨_, member, rfl⟩)
    · obtain ⟨parameter, -, -, rfl, -⟩ := mem_parameter_of_fills matched member
      exact isCell_argumentName parameter.name
  have arguments (parameters : List Parameter) : ∀ name ∈ parameters.map argumentOf, IsCell name :=
    List.forall_mem_map.mpr fun parameter _ => isCell_argumentName parameter.name
  simp only [tableRow, List.forall_mem_cons]
  refine ⟨own, functionName, verb, isCell_append (by decide) template,
    isCell_listed ?_, isCell_listed ?_, List.forall_mem_nil _⟩
  · rw [arguments_built]
    refine List.forall_mem_append.mpr ⟨arguments _, ?_⟩
    split
    · decide
    · exact List.forall_mem_nil _
  · rw [required_built]
    exact arguments _

/-- What is written to the output for plans in a table. -/
def tableText (plans : List Plan) : String :=
  if plans.isEmpty then ""
  else String.join ((tableHeaders :: plans.map tableRow).map fun row =>
    endLine (String.intercalate "\t" row))

/-- What is told of plans in a table: that there are none, unless the console is quiet. -/
def tableRemark (session : Session) (plans : List Plan) : String :=
  if plans.isEmpty && !session.console.quiet then "No operations defined in this spec.\n" else ""

theorem showPlans_run (plain : session.console.format = .plain) (plans : List Plan)
    (machine : Machine) : (showPlans session plans).run.run machine =
      (.ok (), machine.tell ⟨tableText plans, tableRemark session plans⟩) := by
  rw [showPlans, if_neg (by rw [plain]; decide), tableText, tableRemark]
  split
  · next none =>
    refine Session.put_run ?_ machine
    rw [Session.write, Console.remark, none]
    rfl
  · next some =>
    refine Session.put_run ?_ machine
    rw [Session.write, Console.table, plain, if_neg (by simp [some])]
    rfl

/-- Where the identifiers of operations and the pieces of their paths that nothing fills hold
neither tabs nor line feeds, what is shown of plans in a table is cut into the headers and the rows
of the plans. A run that shows them writes nothing else to the output, and nothing at all where
there are no plans; this it tells on the diagnostics, unless the console is quiet. -/
theorem rows_of_shownPlans {description : Description} {versions : Versions} {plans : List Plan}
    (planned : (Plan.ofDescription description versions).result = .ok plans) :
    ∃ text, (plans = [] → text = "") ∧
      (plans ≠ [] → (∀ plan ∈ plans, ∀ own ∈ givenTexts plan, IsCell own) →
        rowsOf text = tableHeaders :: plans.map tableRow) ∧
      (∀ (session : Session) (machine : Machine), session.console.format = .plain →
        (showPlans session plans).run.run machine =
          (.ok (), machine.tell ⟨text, tableRemark session plans⟩)) ∧
      ∀ (words : List String) (machine : Machine) (session : Session),
        Inspects words machine session plans → session.console.format = .plain →
          ∃ after, (run words).run.run machine = (.ok .success, after) ∧
            after.output = machine.output ++ text ∧
            ∃ notes, after.diagnostics = notes ++ tableRemark session plans := by
  refine ⟨tableText plans, fun none => by rw [none]; rfl, fun some given => ?_,
    fun session machine plain => showPlans_run plain plans machine,
    fun words machine session inspects plain =>
      run_of_inspects inspects (showPlans_run plain plans)⟩
  have cells : ∀ row ∈ tableHeaders :: plans.map tableRow, ∀ cell ∈ row, IsCell cell := by
    refine List.forall_mem_cons.mpr ⟨by decide, List.forall_mem_map.mpr fun plan member => ?_⟩
    obtain ⟨operation, made⟩ := exists_operation_of_mem planned plan member
    exact isCell_of_mem_tableRow made (given plan member)
  have filled : ∀ row ∈ tableHeaders :: plans.map tableRow, row ≠ [] :=
    List.forall_mem_cons.mpr ⟨List.cons_ne_nil _ _,
      List.forall_mem_map.mpr fun plan _ => List.cons_ne_nil _ _⟩
  rw [tableText, if_neg (by simpa using some), rowsOf_join filled cells]

theorem rows_of_shownPlans_quotedDocument :
    ∃ (plan : Plan) (after : Machine), (∀ own ∈ givenTexts plan, IsCell own) ∧
      (run ["--plain", "inspect", "s.json"]).run.run (machineWith quotedDocument) =
        (.ok .success, after) ∧
      rowsOf after.output = [tableHeaders, tableRow plan] := by
  obtain ⟨plan, there, named, cut⟩ := exists_plansOf_quotedDocument _
  have inspects : Inspects ["--plain", "inspect", "s.json"] (machineWith quotedDocument)
      (.install (.ofFormat .plain false false)) [plan] :=
    ⟨⟨false, true, false, false⟩, "s.json", ⟨none, none⟩, machineWith quotedDocument,
      ⟨.inspect, ["s.json"], by decide +kernel⟩, rfl, there⟩
  have given : ∀ own ∈ givenTexts plan, IsCell own := by
    rw [givenTexts, named, cut]
    decide
  obtain ⟨document, description, -, -, planned, -⟩ := plansOf_eq_some_iff.mp there
  obtain ⟨text, -, rows, -, runs⟩ := rows_of_shownPlans planned
  obtain ⟨after, ran, output, -⟩ := runs _ _ _ inspects rfl
  refine ⟨plan, after, given, ran, ?_⟩
  rw [output, show (machineWith quotedDocument).output = "" from rfl, String.empty_append]
  exact rows (List.cons_ne_nil _ _) (List.forall_mem_singleton.mpr given)

/-- An operation without parameters. -/
def bareOperation (path operationId : String) : Operation :=
  ⟨path, .get, some operationId, none, none, [], none⟩

/-- Whether what is shown of the plans of some operations in a table is cut into the rows of the
plans. -/
def showsRows (operations : List Operation) : Option Bool :=
  (ofDescription ⟨shopInfo, shopServers, operations, "3.0.3"⟩ ⟨none, none⟩).result.toOption.map
    fun plans =>
    rowsOf ((showPlans .start plans).run.run (machineWith "")).2.output ==
      tableHeaders :: plans.map tableRow

/-- Without plans there are no headers, and a tab or a line feed of the document's own is cut at as
well. -/
theorem showsRows_false :
    showsRows [] = some false ∧ showsRows [bareOperation "/x" "get\tX"] = some false ∧
      showsRows [bareOperation "/x\ny" "getX"] = some false := by
  decide +kernel

end CommandLine

end ApiCompiler
