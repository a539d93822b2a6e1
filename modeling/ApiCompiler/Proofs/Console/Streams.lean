import ApiCompiler.Console.Session
import ApiCompiler.Proofs.Action

/-!
# The two streams

Consoles are put in use and items are written, in any order. The output holds the texts of data, one
after another, and the diagnostics hold all else. What is only for one of the streams has no part in
the other. A quiet console withholds what only informs; without a verbose one, what helps to find
errors is withheld.
-/

namespace ApiCompiler

/-- What is done with consoles. -/
inductive Session.Step where
  /-- Uses a console for what follows. -/
  | use (console : Console)
  /-- Shows a console the records that follow. -/
  | listen (console : Console)
  | put (item : Item)

/-- What is written to the streams of a machine. -/
def Machine.tell (machine : Machine) (written : Written) : Machine :=
  { machine with
    output := machine.output ++ written.output
    diagnostics := machine.diagnostics ++ written.diagnostics }

theorem Machine.tell_nothing (machine : Machine) : machine.tell ⟨"", ""⟩ = machine := by
  simp [tell]

namespace Session

/-- The session after a step. -/
def after (session : Session) : Step → Session
  | .use console => { session with console }
  | .listen console => { session with recorder := some console }
  | .put _ => session

/-- Does a step. A fault of an item is left to those who asked for it, and ends nothing. -/
def act (session : Session) : Step → Action Unit
  | .use _ => pure ()
  | .listen _ => pure ()
  | .put item => do
    let _ ← (session.put item).run
    return ()

/-- Does one step after another. -/
def perform (session : Session) : List Step → Action Unit
  | [] => pure ()
  | step :: steps => do
    session.act step
    (session.after step).perform steps

/-- A console that is set up is used, and it is shown records. -/
theorem install_eq (session : Session) (console : Console) :
    install console = (session.after (.use console)).after (.listen console) := rfl

theorem reset_eq (session : Session) : session.reset = session.after (.use .standard) := rfl

/-- What a step writes. -/
def writes (session : Session) : Step → Written
  | .use _ => ⟨"", ""⟩
  | .listen _ => ⟨"", ""⟩
  | .put item => (session.write item).toOption.getD ⟨"", ""⟩

/-- The steps, each with the session that it is done in. -/
def history (session : Session) : List Step → List (Session × Step)
  | [] => []
  | step :: steps => (session, step) :: (session.after step).history steps

/-- What steps write, one after another. -/
def written (session : Session) (steps : List Step) : Written where
  output :=
    String.join ((session.history steps).map fun (session, step) => (session.writes step).output)
  diagnostics :=
    String.join ((session.history steps).map fun (session, step) =>
      (session.writes step).diagnostics)

theorem written_cons (session : Session) (step : Step) (steps : List Step) :
    session.written (step :: steps) =
      ⟨(session.writes step).output ++ ((session.after step).written steps).output,
        (session.writes step).diagnostics ++ ((session.after step).written steps).diagnostics⟩ := by
  simp [written, history, String.join_cons]

theorem put_run {session : Session} {item : Item} {written : Written}
    (writes : session.write item = .ok written) (machine : Machine) :
    (session.put item).run.run machine = (.ok (), machine.tell written) := by
  unfold put
  rw [writes]
  rfl

theorem act_run (session : Session) (step : Step) (machine : Machine) :
    (session.act step).run machine = ((), machine.tell (session.writes step)) := by
  cases step with
  | use console => rw [act, writes, Machine.tell_nothing, Action.run_pure]
  | listen console => rw [act, writes, Machine.tell_nothing, Action.run_pure]
  | put item =>
      rw [act, Action.run_bind, Action.run_pure]
      cases outcome : session.write item with
      | ok written =>
          rw [put_run outcome, writes, outcome]
          rfl
      | error misuse =>
          rw [writes, outcome]
          unfold put
          rw [outcome]
          exact congrArg (Prod.mk ()) (Machine.tell_nothing machine).symm

theorem perform_run (session : Session) (steps : List Step) (machine : Machine) :
    (session.perform steps).run machine = ((), machine.tell (session.written steps)) := by
  induction steps generalizing session machine with
  | nil => exact congrArg (Prod.mk ()) (Machine.tell_nothing machine).symm
  | cons step steps induction =>
      rw [perform, Action.run_bind, act_run, induction, written_cons]
      simp [Machine.tell, String.append_assoc]

end Session

namespace Item

/-- Whether an item is for the output. -/
def isData : Item → Bool
  | .data _ => true
  | .source _ => true
  | .json _ => true
  | .table .. => true
  | .remark .. => false
  | .record .. => false

/-- The text of data in a format, unless it has none. -/
def text? (format : Format) : Item → Option String
  | .data text => some (Console.endLine text)
  | .source text => some text
  | .json value => (Console.indented value).toOption
  | .table headers rows => (Console.table ⟨format, false, false⟩ headers rows).toOption
  | .remark .. => none
  | .record .. => none

end Item

namespace Session

namespace Step

def isData : Step → Bool
  | .use _ => false
  | .listen _ => false
  | .put item => item.isData

/-- What of a step is for the output: data, and the format that it is to have. -/
def forOutput? : Step → Option (Format ⊕ Item)
  | .use console => some (.inl console.format)
  | .listen _ => none
  | .put item => if item.isData then some (.inr item) else none

end Step

/-- The texts of data, each in the format that is in use. -/
def dataTexts (format : Format) : List (Format ⊕ Item) → List String
  | [] => []
  | .inl format :: steps => dataTexts format steps
  | .inr item :: steps => (item.text? format).toList ++ dataTexts format steps

variable (session : Session)

/-- Data goes to the output alone. -/
theorem writes_of_isData {item : Item} (data : item.isData = true) :
    session.writes (.put item) = ⟨(item.text? session.console.format).getD "", ""⟩ := by
  have told (text : Except Misuse String) :
      (text.map fun text => (⟨text, ""⟩ : Written)).toOption.getD
      ⟨"", ""⟩ = ⟨text.toOption.getD "", ""⟩ := by
    cases text <;> rfl
  cases item with
  | data text => rfl
  | source text => rfl
  | json value => exact told _
  | table headers rows => exact told _
  | remark tone text => contradiction
  | record channel level text => contradiction

theorem output_writes_of_not_isData {item : Item} (other : item.isData = false) :
    (session.writes (.put item)).output = "" := by
  cases item with
  | remark tone text => rfl
  | record channel level text => rfl
  | _ => contradiction

/-- The output is a function of what is for it. -/
theorem output_written (steps : List Step) :
    (session.written steps).output =
      String.join (dataTexts session.console.format (steps.filterMap Step.forOutput?)) := by
  induction steps generalizing session with
  | nil => rfl
  | cons step steps induction =>
      rw [written_cons, induction]
      dsimp only
      cases step with
      | use console => exact String.empty_append
      | listen console => exact String.empty_append
      | put item =>
          rw [after]
          cases data : item.isData with
          | false => simp [Step.forOutput?, data, output_writes_of_not_isData]
          | true =>
              rw [writes_of_isData session data,
                List.filterMap_cons_some (b := .inr item) (by simp [Step.forOutput?, data]),
                dataTexts, String.join_append]
              cases item.text? session.console.format <;> simp [String.join_cons]

end Session

/-- Whether a remark only informs. -/
def Tone.informs : Tone → Bool
  | .info => true
  | .success => true
  | .suggestion => true
  | .warning => false
  | .error => false
  | .debug => false

theorem Console.shows_eq (console : Console) (tone : Tone) :
    console.shows tone = !(console.quiet && tone.informs || !console.verbose && tone = .debug) := by
  cases tone <;> simp [shows, Tone.informs]

/-- Whether records of a level only help to find errors. -/
def Level.traces : Level → Bool
  | .debug => true
  | .info => true
  | .warning => false
  | .error => false
  | .critical => false

theorem Level.isGrave_eq (level : Level) : level.isGrave = !level.traces := by
  cases level <;> rfl

namespace Session

/-- Whether a step is withheld for a quiet console. -/
def hushes (session : Session) : Step → Bool
  | .put (.remark tone _) => session.console.quiet && tone.informs
  | _ => false

/-- Whether a step is withheld for want of a verbose console: for a remark that is the one in use,
for a record the one that was set up for its channel. -/
def skims (session : Session) : Step → Bool
  | .put (.remark tone _) => !session.console.verbose && tone = .debug
  | .put (.record channel level _) => !(session.recorderOf channel).any (·.verbose) && level.traces
  | _ => false

/-- Whether a step is withheld. -/
def withholds (session : Session) (step : Step) : Bool :=
  session.hushes step || session.skims step

/-- The whole text of a remark or record. A record bears its level and its channel where a console
was set up for the channel, and is bare where none was. -/
def fullText (session : Session) : Step → String
  | .put (.remark tone text) => tone.lead ++ text ++ "\n"
  | .put (.record channel level text) =>
    match session.recorder, isOwnChannel channel with
    | some _, true => s!"{level.name} {channel}: {text}\n"
    | _, _ => text ++ "\n"
  | _ => ""

variable (session : Session)

theorem diagnostics_writes_of_isData {step : Step} (data : step.isData = true) :
    (session.writes step).diagnostics = "" := by
  cases step with
  | put item => rw [writes_of_isData session data]
  | _ => contradiction

theorem diagnostics_writes (step : Step) : (session.writes step).diagnostics =
    if session.withholds step then "" else session.fullText step := by
  cases step with
  | use console => rfl
  | listen console => rfl
  | put item =>
      cases item with
      | remark tone text =>
          have shown : session.console.shows tone = !session.withholds (.put (.remark tone text)) :=
            Console.shows_eq _ _
          change session.console.remark tone text = _
          rw [Console.remark, shown]
          cases session.withholds (.put (.remark tone text)) <;> rfl
      | record channel level text =>
          change session.record channel level text = _
          rw [record, recorderOf]
          -- A console that was set up for the channel decides, and where none was, the level alone.
          cases own : isOwnChannel channel <;> cases recording : session.recorder with
          | none => cases traces : level.traces <;>
              simp [withholds, hushes, skims, fullText, recorderOf, own, recording, traces,
                Level.isGrave_eq]
          | some console => cases traces : level.traces <;> cases talks : console.verbose <;>
              simp [withholds, hushes, skims, fullText, recorderOf, own, recording, traces,
                talks, Console.records, Level.isGrave_eq]
      | _ => exact diagnostics_writes_of_isData session rfl

/-- The diagnostics hold all that is neither data nor withheld. -/
theorem diagnostics_written (steps : List Step) : (session.written steps).diagnostics =
    String.join (((session.history steps).filter fun (session, step) => !session.withholds step).map
      fun (session, step) => session.fullText step) := by
  unfold written
  dsimp only
  induction session.history steps with
  | nil => rfl
  | cons entry entries induction =>
      rw [List.map_cons, String.join_cons, induction, diagnostics_writes]
      cases withheld : entry.1.withholds entry.2 with
      | false => simp [withheld, String.join_cons]
      | true => simp [withheld]

/-- Data has no part in the diagnostics. -/
theorem diagnostics_written_filter (steps : List Step) :
    (session.written (steps.filter (!·.isData))).diagnostics =
      (session.written steps).diagnostics := by
  induction steps generalizing session with
  | nil => rfl
  | cons step steps induction =>
      rw [written_cons]
      cases data : step.isData with
      | false => rw [List.filter_cons_of_pos (by simp [data]), written_cons, induction]
      | true =>
          have still : session.after step = session := by
            cases step with
            | put item => rfl
            | _ => contradiction
          rw [List.filter_cons_of_neg (by simp [data]), still, diagnostics_writes_of_isData _ data,
            String.empty_append, induction]

/-- What is done with consoles writes data to the output and all else to the diagnostics. The output
is the texts of the data, one after another, and is the same for all that is alike in data and
formats: neither remarks and records nor quiet or verbose consoles have a part in it. The
diagnostics are the same for all that is alike but for data, and lack nothing but what only informs,
where the console is quiet, and what helps to find errors, where it is not verbose. -/
theorem streams_apart (session : Session) (steps : List Step) :
    (∀ machine, (session.perform steps).run machine = ((), machine.tell (session.written steps))) ∧
      (session.written steps).output =
        String.join (dataTexts session.console.format (steps.filterMap Step.forOutput?)) ∧
      (∀ (other : Session) (others : List Step), other.console.format = session.console.format →
        others.filterMap Step.forOutput? = steps.filterMap Step.forOutput? →
          (other.written others).output = (session.written steps).output) ∧
      (∀ others : List Step, others.filter (!·.isData) = steps.filter (!·.isData) →
        (session.written others).diagnostics = (session.written steps).diagnostics) ∧
      (session.written steps).diagnostics =
        String.join (((session.history steps).filter fun (session, step) =>
          !session.withholds step).map fun (session, step) => session.fullText step) := by
  refine ⟨perform_run session steps, output_written session steps,
    fun other others format same => ?_,
    fun others same => ?_, diagnostics_written session steps⟩
  · rw [output_written, output_written, format, same]
  · rw [← diagnostics_written_filter, same, diagnostics_written_filter]

/-- Data on a quiet console. -/
def tacitSteps : List Step :=
  [.use ⟨.json, true, false⟩, .put (.table ["Operation"] [["getPing"]]), .put (.source "API")]

/-- The same data on a verbose console, with remarks and records, of which two come before it is set
up. -/
def wordySteps : List Step :=
  [.put (.record programName .warning "early"), .put (.record programName .info "hidden"),
    .put (.remark .info "Reading"), .use ⟨.json, false, true⟩, .listen ⟨.json, false, true⟩,
    .put (.record programName .debug "read"), .put (.table ["Operation"] [["getPing"]]),
    .put (.remark .error "late"), .put (.source "API")]

theorem streams_apart_wordySteps :
    (start.written wordySteps).output = (start.written tacitSteps).output ∧
      (start.written (wordySteps.filter (!·.isData))).diagnostics =
        (start.written wordySteps).diagnostics := by
  obtain ⟨-, -, outputs, -⟩ := streams_apart start tacitSteps
  obtain ⟨-, -, -, diagnostics, -⟩ := streams_apart start wordySteps
  exact ⟨outputs start wordySteps rfl rfl, diagnostics (wordySteps.filter (!·.isData)) rfl⟩

example : (start.written wordySteps).diagnostics =
    "early\nReading\nDEBUG specsdk: read\nError: late\n" := by
  decide +kernel

end Session

end ApiCompiler
