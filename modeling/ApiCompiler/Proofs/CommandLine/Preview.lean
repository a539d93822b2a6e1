import ApiCompiler.Proofs.CommandLine.AllOrNothing
import ApiCompiler.Proofs.Plan.All
import ApiCompiler.Proofs.Plan.Operation
import Mathlib.Data.Fintype.EquivFin

/-!
# Inspecting what is generated

What is shown of a document before its module is generated. Both commands read the same description,
but what is shown is planned with the versions that are given alone, and the module with those that
the settings come to: they agree exactly where these versions do, or where nothing is planned.
-/

namespace ApiCompiler

open Outcome

namespace Plan

/-- The version that requests report: an empty text reports none. -/
def reported (version : Option String) : Option String :=
  version.filter (· ≠ "")

/-- Versions that requests report alike. -/
def ReportAlike (versions others : Versions) : Prop :=
  reported versions.sdk = reported others.sdk ∧ reported versions.app = reported others.app

theorem versionBinding_eq (key : String) (version : Option String) :
    versionBinding key version = (reported version).toList.map fun text =>
      ⟨key, .constant text⟩ := by
  unfold versionBinding
  split
  · rfl
  · rfl
  · rename_i version filled
    have kept : reported (some version) = some version := by
      simpa [reported, Option.filter] using filled
    rw [kept]
    rfl

theorem headerBindings_eq_iff {parameters : Named} {info : Info} {versions others : Versions} :
    headerBindings parameters info versions = headerBindings parameters info others ↔
      ReportAlike versions others := by
  simp only [headerBindings, versionBinding_eq, ReportAlike, List.cons_append, List.cons.injEq,
    true_and, List.append_cancel_right_eq]
  cases reported versions.sdk <;> cases reported versions.app <;> cases reported others.sdk <;>
    cases reported others.app <;> simp [sdkVersionHeader, appVersionHeader]

/-- Versions have no part in a plan but the headers that report them. -/
theorem build_eq_iff {operation : Operation} {operationId : String} {info : Info} {server : Server}
    {versions others : Versions} {parameters : Named} {segments : List Segment} :
    build operation operationId info server versions parameters segments =
        build operation operationId info server others parameters segments ↔
      ReportAlike versions others := by
  simp only [build, Plan.mk.injEq, RequestPlan.mk.injEq, true_and, and_true, headerBindings_eq_iff]

/-- Two plans of one operation are the same exactly where the versions report alike. -/
theorem ofOperation_eq_iff {operation : Operation} {info : Info} {servers : List Server}
    {versions others : Versions} {plan other : Plan}
    (planned : ofOperation operation info servers versions = .ok plan)
    (again : ofOperation operation info servers others = .ok other) :
    plan = other ↔ ReportAlike versions others := by
  obtain ⟨operationId, server, _, segments, named, -, served, -, -, cut, rfl⟩ :=
    ofOperation_eq_ok_iff.mp planned
  obtain ⟨_, _, _, _, namedAgain, -, servedAgain, -, -, cutAgain, rfl⟩ :=
    ofOperation_eq_ok_iff.mp again
  obtain rfl := Option.some.inj (named.symm.trans namedAgain)
  obtain ⟨rfl, -⟩ := List.cons.inj (served.symm.trans servedAgain)
  obtain rfl := Except.ok.inj (cut.symm.trans cutAgain)
  exact build_eq_iff

/-- The plans of one description are the same exactly where the versions report alike, or where
there are none. -/
theorem ofDescription_eq_iff {description : Description} {versions others : Versions}
    {plans again : List Plan} (planned : (ofDescription description versions).result = .ok plans)
    (replanned : (ofDescription description others).result = .ok again) :
    plans = again ↔ description.operations = [] ∨ ReportAlike versions others := by
  have first := forall₂_of_ofDescription planned
  have second := forall₂_of_ofDescription replanned
  clear planned replanned
  generalize description.operations = operations at first second
  cases first with
  | nil =>
      cases second
      simp
  | @cons operation plan operations plans own rest =>
      cases second with | @cons _ other _ others ownAgain restAgain => ?_
      rw [List.cons.injEq, ofOperation_eq_iff own ownAgain]
      simp only [reduceCtorEq, false_or, and_iff_left_iff_imp]
      intro alike
      clear own ownAgain
      induction rest generalizing others with
      | nil =>
          cases restAgain
          rfl
      | cons own rest induction =>
          cases restAgain with | cons ownAgain restAgain => ?_
          rw [(ofOperation_eq_iff own ownAgain).mpr alike, induction restAgain]

end Plan

/-- Some place is none that any of some paths leads to. -/
theorem Files.exists_place_apart (files : Files) (start : Place) (paths : List Path) :
    ∃ apart, ∀ path ∈ paths, files.resolve start path ≠ .ok apart := by
  obtain ⟨apart, unreached⟩ :=
    Infinite.exists_notMem_finset (paths.filterMap fun path =>
      (files.resolve start path).toOption).toFinset
  refine ⟨apart, fun path member led => unreached ?_⟩
  rw [List.mem_toFinset, List.mem_filterMap]
  exact ⟨path, member, toOption_eq_some.mpr led⟩

/-- A document that was loaded is loaded again where all files are spared. -/
theorem Document.result_load_of_spared {source : String} {machine later : Machine}
    {document : Document} (loaded : ((load source).run machine).1.result = .ok document)
    (spared : Machine.Spared machine later) :
    ((load source).run later).1.result = .ok document := by
  obtain ⟨notice, reading, load_eq, readAgain⟩ := load_cases source
  rw [load_eq, noted_run] at loaded ⊢
  obtain ⟨apart, avoids⟩ := Files.exists_place_apart later.files later.workingDirectory
    (reading.looked machine)
  have reads : reading.run machine = (.ok document, (reading.run machine).2) := Prod.ext loaded rfl
  have again := (readAgain reads).again later spared.alike spared.files.kept avoids
  exact congrArg Prod.fst again

namespace CommandLine

open Work

variable {machine after : Machine}

/-- What a run shows of a document in full: the plans of its description, with the versions that are
given. -/
structure Shows (source : String) (versions : Versions) (machine after : Machine)
    (document : Document)
    (description : Description) (plans : List Plan) : Prop where
  loaded : ((Document.load source).run machine).1.result = .ok document
  described : (Description.ofDocument document).result = .ok description
  planned : (Plan.ofDescription description versions).result = .ok plans
  printed : ∃ text, Console.indented (.list (plans.map Plan.record)) = .ok text ∧
    after.output = machine.output ++ text

theorem output_of_put_json {session : Session} {value : Value}
    (ran : (session.put (.json value)).run.run machine = (.ok (), after)) :
    ∃ text, Console.indented value = .ok text ∧ after.output = machine.output ++ text := by
  obtain ⟨written, middle, printing, emitting⟩ := Action.run_bind_eq_ok_iff.mp ran
  cases printed : Console.indented value with
  | error misuse => simp [Session.write, printed, Except.map, Except.mapError, ofResult] at printing
  | ok text =>
      simp only [Session.write, printed, Except.map, Except.mapError] at printing
      obtain ⟨rfl, rfl⟩ := Action.run_pure_eq_ok_iff.mp printing
      obtain ⟨-, rfl⟩ := Prod.mk.inj emitting
      exact ⟨text, rfl, rfl⟩

/-- Plans that were shown in full were put on the output together. -/
theorem put_of_showSpelled {session : Session} {document : Document} {plans : List Plan}
    (full : session.console.format = .json)
    (ran : (showSpelled session document plans).run.run machine = (.ok (), after)) :
    (session.put (.json (.list (plans.map Plan.record)))).run.run machine = (.ok (), after) := by
  unfold showSpelled at ran
  dsimp only at ran
  split at ran
  · rwa [showPlans, if_pos full] at ran
  · exact absurd (Prod.mk.inj ran).1 error_ne_ok

theorem openSession_run {manner : Manner} (full : manner.json = true) (machine : Machine) :
    (openSession manner).run.run machine =
      (.ok (.install (.ofFormat .json manner.quiet manner.verbose)), machine) := by
  rw [openSession, full]
  rfl

theorem shows_of_inspect {manner : Manner} {source : String} {versions : Versions} {exit : Exit}
    (full : manner.json = true)
    (ran : (do
      execute (← openSession manner) (.inspect source versions) : Work Exit).run.run machine =
      (.ok exit, after)) :
    ∃ document description plans,
      Shows source versions machine after document description plans := by
  rw [Action.run_bind_of_ok (openSession_run full machine)] at ran
  obtain ⟨loaded, read, loading, ran⟩ := Action.run_bind_eq_ok_iff.mp ran
  obtain ⟨document, reported, reporting, ran⟩ := Action.run_bind_eq_ok_iff.mp ran
  obtain ⟨description, described, describing, ran⟩ := Action.run_bind_eq_ok_iff.mp ran
  obtain ⟨plans, planned, planning, ran⟩ := Action.run_bind_eq_ok_iff.mp ran
  obtain ⟨_, shown, showing, ended⟩ := Action.run_bind_eq_ok_iff.mp ran
  obtain ⟨-, rfl⟩ := Action.run_pure_eq_ok_iff.mp ended
  -- Nothing is written to the output before the plans are.
  have spared : Machine.Spared machine planned :=
    ((((spares_lift (Document.spares_load source)).spared loading).trans
      ((Session.spares_report _ _).spared reporting)).trans
        ((Session.spares_report _ _).spared describing)).trans
          ((Session.spares_report _ _).spared planning)
  rw [run_lift, Prod.mk.injEq, Except.ok.injEq] at loading
  obtain ⟨text, printed, output⟩ := output_of_put_json (put_of_showSpelled rfl showing)
  refine ⟨document, description, plans, ?_, result_of_report describing, result_of_report planning,
    text, printed, spared.output ▸ output⟩
  rw [loading.1]
  exact result_of_report reporting

/-- A run generates the module of some plans: it opens its session and reads its settings, reads a
document, plans it with the versions that the settings come to, and does with the module what it is
to do. -/
structure Generates (manner : Manner) (source : String) (given : Generation) (check : Bool)
    (machine after : Machine) (document : Document) (description : Description)
    (generation : Generation)
    (plans : List Plan) : Prop where
  steps : ∃ session ready made server draft,
    (opened manner given).run.run machine = (.ok (session, generation), ready) ∧
      (moduleOf session source generation).run.run ready = (.ok (description, draft), made) ∧
      Module.firstServer description = .ok server ∧
      draft = document.spelled (Module.render description.info server.url plans) ∧
      (finish check session source (targetOf generation) description draft).run.run made =
        (.ok .success, after)
  loaded : ∃ reading, Machine.Spared machine reading ∧
    ((Document.load source).run reading).1.result = .ok document
  described : (Description.ofDocument document).result = .ok description
  planned :
    (Plan.ofDescription description ⟨generation.sdkVersion, generation.appVersion⟩).result =
      .ok plans

theorem generates_of_execute {manner : Manner} {source : String} {given : Generation} {check : Bool}
    (ran : (do
      execute (← openSession manner) (.generate source given check) : Work Exit).run.run machine =
      (.ok .success, after)) :
    ∃ document description generation plans,
      Generates manner source given check machine after document description generation plans := by
  rw [execute_generate_eq] at ran
  obtain ⟨⟨session, generation⟩, ready, opening, ran⟩ := Action.run_bind_eq_ok_iff.mp ran
  obtain ⟨_, guarded, guarding, ran⟩ := Action.run_bind_eq_ok_iff.mp ran
  rw [eq_of_guardTarget guarding] at ran
  obtain ⟨⟨description, draft⟩, made, making, finishing⟩ := Action.run_bind_eq_ok_iff.mp ran
  obtain ⟨reading, document, module, spared, loaded, described, assembled, spelled⟩ :=
    exists_document_of_making making
  obtain ⟨plans, planned, server, first, rfl⟩ := Module.exists_plans_of_assemble assembled
  exact ⟨document, description, generation, plans,
    ⟨session, ready, made, server, draft, opening, making, first, spelled, finishing⟩,
    ⟨reading, ((spares_opened manner given).spared opening).trans spared, loaded⟩,
    described, planned⟩

/-- Both commands read one description. What is shown of it in full is planned with the versions
that are given, what is generated with those that the settings come to; the plans are the same
exactly where requests report these versions alike, or where there are none. -/
theorem shown_eq_generated_iff {shownWords words : List String} {showing manner : Manner}
    {source : String} {given : Generation} {check : Bool} {machine told after : Machine}
    (inspects : Asks shownWords showing (.inspect source ⟨given.sdkVersion, given.appVersion⟩))
    (full : showing.json = true) (generates : Asks words manner (.generate source given check))
    (shown : (run shownWords).run.run machine = (.ok .success, told))
    (written : (run words).run.run machine = (.ok .success, after)) :
    ∃ document description generation plans generated,
      Shows source ⟨given.sdkVersion, given.appVersion⟩ machine told document description plans ∧
        Generates manner source given check machine after document description
          generation generated ∧
        (plans = generated ↔ description.operations = [] ∨
          Plan.ReportAlike ⟨given.sdkVersion, given.appVersion⟩
            ⟨generation.sdkVersion, generation.appVersion⟩) := by
  rw [run_of_asks inspects] at shown
  rw [run_of_asks generates] at written
  obtain ⟨document, description, plans, shows⟩ := shows_of_inspect full (conclude_eq_success shown)
  obtain ⟨again, _, generation, generated, generates⟩ :=
    generates_of_execute (conclude_eq_success written)
  obtain ⟨reading, spared, loaded⟩ := generates.loaded
  have reloaded := Document.result_load_of_spared shows.loaded spared
  obtain rfl := Except.ok.inj (loaded.symm.trans reloaded)
  obtain rfl := Except.ok.inj (generates.described.symm.trans shows.described)
  exact ⟨_, _, generation, plans, generated, shows, generates,
    Plan.ofDescription_eq_iff shows.planned generates.planned⟩

/-- A document with one operation. -/
def pinnedDocument : String :=
  "\x7b\"openapi\":\"3.0.3\",\"info\":\x7b\"title\":\"a\",\"version\":\"1\"\x7d," ++
    "\"servers\":[\x7b\"url\":\"/\"\x7d],\"paths\":\x7b\"/x\":\x7b\"get\":" ++
    "\x7b\"operationId\":\"getX\"\x7d\x7d\x7d\x7d"

/-- A machine whose environment sets a version. -/
def pinnedMachine : Machine where
  files := ⟨[(["home"], .directory), (["home", "s.json"], .file (.text pinnedDocument))]⟩
  workingDirectory := ["home"]
  environment := [("XDG_CONFIG_HOME", "/home"), ("SPECSDK_SDK_VERSION", "9")]
  system := "Linux"
  time := default
  input := .text ""
  reply := fun _ => .unreached ""
  mishaps := []
  output := ""
  diagnostics := ""

def shownWords : List String := ["--json", "inspect", "s.json"]

def writtenWords : List String := ["generate", "s.json"]

theorem asks_shownWords :
    Asks shownWords ⟨true, false, false, false⟩ (.inspect "s.json" ⟨none, none⟩) :=
  ⟨.inspect, ["s.json"], by decide +kernel⟩

theorem asks_writtenWords :
    Asks writtenWords ⟨false, false, false, false⟩ (.generate "s.json" ⟨none, none, none⟩ false) :=
  ⟨.generate, ["s.json"], by decide +kernel⟩

theorem run_shownWords_success :
    ((run shownWords).run.run pinnedMachine).1.toOption = some .success := by
  decide +kernel

theorem run_writtenWords_success :
    ((run writtenWords).run.run pinnedMachine).1.toOption = some .success := by
  decide +kernel

/-- What is shown of a machine's document lacks the version that its environment sets. -/
theorem shown_ne_generated_pinnedMachine :
    ∃ told after document description generation plans generated,
      (run shownWords).run.run pinnedMachine = (.ok .success, told) ∧
        (run writtenWords).run.run pinnedMachine = (.ok .success, after) ∧
        Shows "s.json" ⟨none, none⟩ pinnedMachine told document description plans ∧
        Generates ⟨false, false, false, false⟩ "s.json" ⟨none, none, none⟩ false pinnedMachine after
          document description generation generated ∧ plans ≠ generated := by
  have shown := eq_of_toOption_eq_some run_shownWords_success
  have written := eq_of_toOption_eq_some run_writtenWords_success
  obtain ⟨document, description, generation, plans, generated, shows, generates, same⟩ :=
    shown_eq_generated_iff asks_shownWords rfl asks_writtenWords shown written
  refine ⟨_, _, document, description, generation, plans, generated, shown, written,
    shows, generates, ?_⟩
  obtain ⟨_, _, _, _, _, opening, -⟩ := generates.steps
  have settled : ((opened ⟨false, false, false, false⟩ ⟨none, none, none⟩).run.run
      pinnedMachine).1.toOption.map (·.2) = some ⟨some "9", none, none⟩ := by decide +kernel
  rw [opening] at settled
  obtain rfl : generation = ⟨some "9", none, none⟩ := Option.some.inj settled
  rw [Ne, same]
  have filled : (((Document.load "s.json").run pinnedMachine).1.result.toOption.bind fun document =>
      (Description.ofDocument document).result.toOption).any (!·.operations.isEmpty) := by
    decide +kernel
  rw [shows.loaded, Except.toOption, Option.bind_some, shows.described, Except.toOption,
    Option.any_some] at filled
  rintro (empty | alike)
  · simp [empty] at filled
  · exact absurd alike.1 (by decide)

end CommandLine

end ApiCompiler
