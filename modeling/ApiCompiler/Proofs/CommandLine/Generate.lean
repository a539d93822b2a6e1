import ApiCompiler.CommandLine
import ApiCompiler.Proofs.Document.Source
import ApiCompiler.Proofs.Files.Mishaps
import ApiCompiler.Proofs.Module.Returns
import ApiCompiler.Proofs.Settings.Reader

/-!
# Generating and checking

A module that was written is checked next, with the same settings and the same document. The check
finds what was written, and what it reads is what was written exactly where the module holds no
carriage return.
-/

namespace ApiCompiler.CommandLine

open Files (Kept Place)
open Machine (Alike)
open Outcome Text Work

/-- Opens the session of a run and reads its settings. -/
def opened (manner : Manner) (given : Generation) : Work (Session × Generation) := do
  let session ← openSession manner
  let settings ← Settings.effective given
  return (session, settings.generation)

/-- Reads a document, and assembles and spells its module. -/
def moduleOf (session : Session) (source : String) (generation : Generation) :
    Work (Description × Except Files.Fault String) := do
  session.put (.remark .debug s!"Loading spec from: {source}")
  let document ← session.report (← ExceptT.lift (Document.load source))
  let description ← session.report (Description.ofDocument document)
  let text ← session.report
    (Module.assemble description ⟨generation.sdkVersion, generation.appVersion⟩)
  return (description, document.spelled text)

/-- A check needs a file that it reads. -/
def guardTarget (check : Bool) (target : String) : Work Unit :=
  if check && target == outputTarget then throw .nothingToCheck else pure ()

theorem throw_bind {α β : Type} (failure : Failure) (next : α → Work β) :
    (throw failure >>= next : Work β) = throw failure := rfl

/-- A run opens its session, reads its settings and its document, and only then does what it is to
do. -/
theorem execute_generate_eq (manner : Manner) (source : String)
    (given : Generation) (check : Bool) :
    (do execute (← openSession manner) (.generate source given check)) =
      opened manner given >>= fun (session, generation) =>
        guardTarget check (targetOf generation) >>= fun _ =>
          moduleOf session source generation >>= fun (description, draft) =>
            finish check session source (targetOf generation) description draft := by
  simp only [execute, generate, opened, moduleOf, guardTarget, bind_assoc, pure_bind]
  refine bind_congr fun session => bind_congr fun settings => ?_
  split
  · rw [throw_bind]
  · rw [pure_bind]

variable {apart : Place} {machine after later : Machine}

theorem repeatable_openSession (manner : Manner) :
    Repeatable apart (openSession manner) machine := by
  unfold openSession
  dsimp only
  split
  · exact (repeatable_pure _).bind fun _ _ _ _ => repeatable_pure _
  · split
    · exact (repeatable_pure _).bind fun _ _ _ _ => repeatable_pure _
    · rw [map_eq_pure_bind]
      exact (Settings.repeatable_readUser.bind fun _ _ _ _ => repeatable_pure _).bind
        fun _ _ _ _ => repeatable_pure _

/-- A machine whose working directory is there. -/
def Standing (machine : Machine) : Prop :=
  machine.files.find machine.workingDirectory ⟨.root, machine.workingDirectory⟩ = .ok .directory

theorem repeatable_opened {manner : Manner} {given : Generation} (standing : Standing machine) :
    Repeatable apart (opened manner given) machine := by
  refine (repeatable_openSession manner).bind fun session after _ repeats => ?_
  have still : Standing after := by
    rw [Standing, repeats.alike.workingDirectory]
    exact repeats.kept.find_directory standing
  exact (Settings.repeatable_effective given still).bind fun _ _ _ _ => repeatable_pure _

theorem result_of_report {α : Type} {session : Session} {work : Logged α} {value : α}
    (ran : (session.report work).run.run machine = (.ok value, after)) :
      work.result = .ok value := by
  obtain ⟨_, middle, -, ended⟩ := Action.run_bind_eq_ok_iff.mp ran
  cases outcome : work.result with
  | ok given =>
      rw [outcome] at ended
      rw [(Action.run_pure_eq_ok_iff.mp ended).1]
  | error failure => simp [outcome, ofResult] at ended

theorem repeatable_moduleOf (session : Session) (source : String) (generation : Generation) :
    Repeatable apart (moduleOf session source generation) machine := by
  refine (repeatable_put session _).bind fun _ _ _ _ => ?_
  refine repeatable_bind (fun loaded middle ran rest => ?_) fun loaded middle _ _ => ?_
  · obtain ⟨value, last, ended⟩ := rest
    obtain ⟨document, _, reported, -⟩ := Action.run_bind_eq_ok_iff.mp ended
    exact Document.repeats_load (result_of_report reported) ran
  · exact (repeatable_report session loaded).bind fun _ _ _ _ =>
      (repeatable_report session _).bind fun _ _ _ _ =>
        (repeatable_report session _).bind fun _ _ _ _ => repeatable_pure _

/-- The document behind a module is read once more, and the module is that of the document. -/
theorem exists_document_of_moduleOf {session : Session} {source : String} {generation : Generation}
    {description : Description} {draft : Except Files.Fault String}
    (ran : (moduleOf session source generation).run.run machine = (.ok (description, draft), after))
    (alike : Alike machine later) (kept : Kept apart after.files later.files)
    (avoids : Avoids apart (moduleOf session source generation) machine later) :
    ∃ document text, ((Document.load source).run later).1.result = .ok document ∧
      (Description.ofDocument document).result = .ok description ∧
      (Module.assemble description ⟨generation.sdkVersion, generation.appVersion⟩).result =
        .ok text ∧ draft = document.spelled text := by
  obtain ⟨_, told, telling, ran⟩ := Action.run_bind_eq_ok_iff.mp ran
  obtain ⟨-, avoids⟩ := avoids_bind telling avoids
  obtain ⟨loaded, read, loading, ran⟩ := Action.run_bind_eq_ok_iff.mp ran
  obtain ⟨avoidsLoad, -⟩ := avoids_bind loading avoids
  obtain ⟨document, reported, reporting, ran⟩ := Action.run_bind_eq_ok_iff.mp ran
  obtain ⟨_, described, describing, ran⟩ := Action.run_bind_eq_ok_iff.mp ran
  obtain ⟨text, assembled, assembling, ended⟩ := Action.run_bind_eq_ok_iff.mp ran
  obtain ⟨same, rfl⟩ := Action.run_pure_eq_ok_iff.mp ended
  obtain ⟨rfl, rfl⟩ := Prod.mk.inj same
  have fine := result_of_report reporting
  have repeats : Repeats apart _ told loaded read := Document.repeats_load fine loading
  have tells : Repeats apart _ machine _ told := repeatable_put session _ _ _ telling
  have keptRead : Kept apart read.files after.files :=
    ((repeatable_report session _ _ _ reporting).kept.trans
      (repeatable_report session _ _ _ describing).kept).trans
        (repeatable_report session _ _ _ assembling).kept
  obtain ⟨last, again, -, -⟩ :=
    repeats.again later (tells.alike.symm.trans alike) (keptRead.trans kept) avoidsLoad
  rw [run_lift, Prod.mk.injEq, Except.ok.injEq] at again
  refine ⟨document, text, ?_, result_of_report describing, result_of_report assembling, rfl⟩
  rw [again.1, fine]

/-- Tells whether what a file reads as is a module. -/
def judge (session : Session) (source target : String) (description : Description) (text : String)
    (current : Option String) : Work Exit :=
  if current = some text then do
    session.put (.remark .success
      s!"{target} is up to date ({description.operations.length} operations)")
    return .success
  else tellOutdated session source target

/-- A check reads a file and then judges it. -/
theorem checkModule_eq (session : Session) (source target : String) (description : Description)
    (text : String) :
    checkModule session source target description text =
      currentOf target >>= judge session source target description text := by
  unfold checkModule judge
  refine bind_congr fun current => ?_
  split <;> rfl

/-- A remark changes no file, nor the process. -/
theorem remark_run (session : Session) (tone : Tone) (text : String) (machine : Machine) :
    ∃ last, (session.put (.remark tone text)).run.run machine = (.ok (), last) ∧
      last.files = machine.files ∧ Alike machine last :=
  ⟨_, rfl, rfl, ⟨rfl, rfl, rfl, rfl, rfl⟩⟩

theorem tellOutdated_run (session : Session) (source target : String) (machine : Machine) :
    ∃ last, (tellOutdated session source target).run.run machine = (.ok .outdated, last) ∧
      last.files = machine.files := by
  obtain ⟨middle, told, same, -⟩ := remark_run session .error
    s!"{target} is out of date with {source}" machine
  obtain ⟨last, advised, files, -⟩ := remark_run session .suggestion
    s!"Run: {programName} generate {source} -o {target}" middle
  exact ⟨last, (Action.run_bind_of_ok told).trans (Action.run_bind_of_ok advised), files.trans same⟩

theorem judge_run (session : Session) (source target : String) (description : Description)
    (text : String) (current : Option String) (machine : Machine) :
    ∃ last, (judge session source target description text current).run.run machine =
        (.ok (if current = some text then .success else .outdated), last) ∧
      last.files = machine.files := by
  unfold judge
  split
  · obtain ⟨last, told, files, -⟩ := remark_run session .success
      s!"{target} is up to date ({description.operations.length} operations)" machine
    exact ⟨last, Action.run_bind_of_ok told, files⟩
  · exact tellOutdated_run session source target machine

/-- What the file of a target reads as, if there is one. -/
inductive Reads (machine : Machine) (target : String) : Option String → Prop where
  | absent (absent : machine.files.isFile machine.workingDirectory (.ofText target) = .ok false) :
      Reads machine target none
  | text {text : String}
      (read : machine.files.read machine.workingDirectory (.ofText target) = .ok text) :
      Reads machine target (some text)

theorem currentOf_run {target : String} {current : Option String}
    (reads : Reads machine target current) :
    (currentOf target).run.run machine = (.ok current, machine) := by
  cases reads with
  | absent absent =>
      have asked : (onFiles (Action.query (.isFile (.ofText target)))).run.run machine =
          (.ok false, machine) := onFiles_eq_ok_iff.mpr (Prod.ext absent rfl)
      rw [currentOf, Action.run_bind_of_ok asked]
      rfl
  | @text text read =>
      obtain ⟨node, found, held⟩ := bind_eq_ok.mp read
      cases node with
      | directory => contradiction
      | file content =>
          have asked : (onFiles (Action.query (.isFile (.ofText target)))).run.run machine =
              (.ok true, machine) :=
            onFiles_eq_ok_iff.mpr (Prod.ext (Files.isFile_eq_ok_true_iff.mpr ⟨content, found⟩) rfl)
          have contents : (onFiles (Action.query (.read (.ofText target)))).run.run machine =
              (.ok text, machine) := onFiles_eq_ok_iff.mpr (Prod.ext read rfl)
          rw [currentOf, Action.run_bind_of_ok asked, if_pos rfl, map_eq_pure_bind,
            Action.run_bind_of_ok contents]
          rfl

/-- A check tells whether the module reads back as it was written. -/
theorem checkModule_run {place : Place} {session : Session} {source target : String}
    {description : Description} {text : String}
    (led : machine.files.resolve machine.workingDirectory (.ofText target) = .ok place)
    (held : machine.files.at? place = some (.file (.text text))) :
    ∃ last, (checkModule session source target description text).run.run machine =
        (.ok (if holdsReturn text then .outdated else .success), last) ∧
      last.files = machine.files := by
  have read : machine.files.read machine.workingDirectory (.ofText target) =
      .ok (Files.Content.readText text) := by
    rw [Files.read, Files.find_eq_ok_iff.mpr ⟨place, led, held⟩]
    rfl
  have verdict :
      (if some (Files.Content.readText text) = some text then Exit.success else .outdated) =
      if holdsReturn text then .outdated else .success := by
    simp only [Option.some.injEq, readText_eq_self_iff]
    cases holdsReturn text <;> rfl
  obtain ⟨last, judged, unchanged⟩ := judge_run session source target description text
    (some (Files.Content.readText text)) machine
  refine ⟨last, ?_, unchanged⟩
  rw [checkModule_eq, Action.run_bind_of_ok (currentOf_run (.text read)), judged, verdict]

/-- Tells that a module was written. -/
def announce (session : Session) (target : String) (description : Description) : Work Exit := do
  session.put (.remark .info s!"{description.info.title} {description.info.version}")
  session.put (.remark .success s!"Wrote {description.operations.length} operations to {target}")
  return .success

/-- A module is written and then announced. -/
theorem writeModule_eq (session : Session) (target : String) (description : Description)
    (text : String) :
    writeModule session target description text =
      onFiles (Files.replaceFile (.ofText target) text) >>= fun _ =>
        announce session target description := rfl

theorem announce_run (session : Session) (target : String) (description : Description)
    (machine : Machine) :
    ∃ last, (announce session target description).run.run machine = (.ok .success, last) ∧
      last.files = machine.files ∧ Alike machine last := by
  obtain ⟨middle, titled, same, alike⟩ := remark_run session .info
    s!"{description.info.title} {description.info.version}" machine
  obtain ⟨last, counted, files, further⟩ := remark_run session .success
    s!"Wrote {description.operations.length} operations to {target}" middle
  exact ⟨last, (Action.run_bind_of_ok titled).trans (Action.run_bind_of_ok counted),
    files.trans same, alike.trans further⟩

/-- A module that was written is in its file, and all else was kept. -/
theorem replaced_of_writeModule {session : Session} {target : String} {description : Description}
    {text : String} {exit : Exit}
    (ran : (writeModule session target description text).run.run machine = (.ok exit, after)) :
    ∃ place, Files.Replaced place (.ofText target) text machine after := by
  rw [writeModule_eq] at ran
  obtain ⟨_, written, writing, rest⟩ := Action.run_bind_eq_ok_iff.mp ran
  obtain ⟨place, replaced⟩ := Files.exists_replaced_of_replaceFile (onFiles_eq_ok_iff.mp writing)
  obtain ⟨last, told, files, alike⟩ := announce_run session target description written
  obtain ⟨-, rfl⟩ := Prod.mk.inj (rest.symm.trans told)
  refine ⟨place, replaced.alike.trans alike, ?_, ?_, ?_⟩
  · rw [files]
    exact replaced.kept
  · rw [files, alike.workingDirectory]
    exact replaced.led
  · rw [files]
    exact replaced.held

/-- A module without a spelling is put nowhere. -/
theorem forgo_run_ne_ok {session : Session} {source target : String} {fault : Files.Fault}
    {exit : Exit} :
    (forgo false session source target fault).run.run machine ≠ (.ok exit, after) := by
  intro ran
  unfold forgo at ran
  rw [if_neg Bool.false_ne_true] at ran
  split at ran
  · exact absurd (Prod.mk.inj ran).1 error_ne_ok
  · obtain ⟨_, _, -, thrown⟩ := Action.run_bind_eq_ok_iff.mp ran
    exact absurd (Prod.mk.inj thrown).1 error_ne_ok

/-- A module that was put in a file had a spelling, which was written there. -/
theorem exists_spelling_of_finish {session : Session} {source target : String}
    {description : Description} {draft : Except Files.Fault String} {exit : Exit}
    (isFile : target ≠ outputTarget)
    (ran : (finish false session source target description draft).run.run machine =
      (.ok exit, after)) :
    ∃ text, draft = .ok text ∧
      (writeModule session target description text).run.run machine = (.ok exit, after) := by
  cases draft with
  | error fault => exact absurd ran forgo_run_ne_ok
  | ok text => exact ⟨text, rfl, by simpa [finish, place, isFile] using ran⟩

/-- The spelling of a text has its carriage returns. -/
theorem holdsReturn_of_spelled {document : Document} {text spelling : String}
    (spelled : document.spelled text = .ok spelling) : holdsReturn spelling = holdsReturn text := by
  unfold Document.spelled at spelled
  split at spelled
  · rw [Except.ok.inj spelled]
  · next first _ =>
    cases respelled : Spares.respell first 0 text.toList with
    | none => simp [respelled] at spelled
    | some characters =>
        simp only [respelled, Except.ok.injEq] at spelled
        rw [← spelled, holdsReturn_ofList, holdsReturn, Bool.eq_iff_iff, List.contains_iff_mem,
          List.contains_iff_mem, return_mem_respell_iff respelled, List.drop_zero]

/-- The words of a command line ask for a command, in some manner. -/
def Asks (words : List String) (manner : Manner) (command : Command) : Prop :=
  ∃ name rest, Opening.ofWords words = .command manner name rest ∧
    Command.ofWords name rest = command

theorem run_of_asks {words : List String} {manner : Manner} {command : Command}
    (asks : Asks words manner command) :
    run words = conclude (do execute (← openSession manner) command) := by
  obtain ⟨name, rest, opening, rfl⟩ := asks
  rw [run, opening]

theorem exit_ne_success (failure : Failure) : failure.exit ≠ .success := by
  cases failure with
  | plan fault => cases fault <;> exact Exit.noConfusion
  | _ => exact Exit.noConfusion

theorem exit_of_concludeFailure {failure : Failure} {exit : Exit}
    (ran : (concludeFailure failure).run.run machine = (.ok exit, after)) :
      exit = failure.exit := by
  unfold concludeFailure at ran
  dsimp only at ran
  split at ran
  · obtain ⟨_, _, -, ended⟩ := Action.run_bind_eq_ok_iff.mp ran
    exact (Action.run_pure_eq_ok_iff.mp ended).1
  · obtain ⟨_, _, -, ran⟩ := Action.run_bind_eq_ok_iff.mp ran
    obtain ⟨_, _, -, ended⟩ := Action.run_bind_eq_ok_iff.mp ran
    exact (Action.run_pure_eq_ok_iff.mp ended).1

/-- How a run concludes, by how its work ends. -/
theorem conclude_cases {work : Work Exit} {outcome : Except Failure Exit}
    (ran : (conclude work).run.run machine = (outcome, after)) :
    (∃ exit, work.run.run machine = (.ok exit, after) ∧ outcome = .ok exit) ∨
      ∃ failure middle, work.run.run machine = (.error failure, middle) ∧
        (concludeFailure failure).run.run middle = (outcome, after) := by
  change (work.run >>= _).run machine = _ at ran
  rw [Action.run_bind] at ran
  cases worked : work.run.run machine with
  | mk result middle =>
      rw [worked] at ran
      cases result with
      | ok exit =>
          obtain ⟨rfl, rfl⟩ := Prod.mk.inj ran
          exact .inl ⟨exit, rfl, rfl⟩
      | error failure => exact .inr ⟨failure, middle, rfl, ran⟩

/-- A run that concludes with success did its work. -/
theorem conclude_eq_success {work : Work Exit}
    (ran : (conclude work).run.run machine = (.ok .success, after)) :
    work.run.run machine = (.ok .success, after) := by
  obtain ⟨exit, worked, same⟩ | ⟨failure, middle, -, concluded⟩ := conclude_cases ran
  · rw [Except.ok.inj same, worked]
  · exact absurd (exit_of_concludeFailure concluded).symm (exit_ne_success failure)

theorem conclude_run_of_ok {work : Work Exit} {exit : Exit}
    (ran : work.run.run machine = (.ok exit, after)) :
    (conclude work).run.run machine = (.ok exit, after) := by
  change (work.run >>= _).run machine = _
  rw [Action.run_bind, ran]
  rfl

theorem avoids_of_conclude {work : Work Exit}
    (avoids : Avoids apart (conclude work) machine later) :
    Avoids apart work machine later := by
  intro path member
  refine avoids path ?_
  change path ∈ (work.run >>= _).looked machine
  rw [Action.looked_bind]
  exact List.mem_append_left _ member

/-- A machine that has the files another was left with, and that answers alike. -/
structure Resumes (after later : Machine) : Prop where
  files : later.files = after.files
  alike : Alike after later

theorem targetOf_of_opened {manner : Manner} {given generation : Generation} {session : Session}
    {target : String} (named : given.output = some target) (filled : target ≠ "")
    (ran : (opened manner given).run.run machine = (.ok (session, generation), after)) :
    targetOf generation = target := by
  obtain ⟨_, _, -, ran⟩ := Action.run_bind_eq_ok_iff.mp ran
  obtain ⟨settings, _, reading, ended⟩ := Action.run_bind_eq_ok_iff.mp ran
  obtain ⟨same, -⟩ := Action.run_pure_eq_ok_iff.mp ended
  obtain ⟨-, rfl⟩ := Prod.mk.inj same
  rw [targetOf, Settings.output_of_effective named reading]
  split
  · contradiction
  · rename_i empty
    exact absurd (Option.some.inj empty) filled
  · rename_i same
    exact (Option.some.inj same).symm

theorem guardTarget_run {target : String} (isFile : target ≠ outputTarget) (check : Bool)
    (machine : Machine) : (guardTarget check target).run.run machine = (.ok (), machine) := by
  have other : (check && target == outputTarget) = false := by simp [isFile]
  rw [guardTarget, other]
  rfl

section Halves

variable {manner : Manner} {source target : String} {given : Generation}
  {check : Bool} {exit : Exit}
  (named : given.output = some target) (filled : target ≠ "") (isFile : target ≠ outputTarget)

include named filled isFile

/-- A run for a file comes to an end exactly where its halves do, one after another. -/
theorem generate_eq_ok_iff :
    (do execute (← openSession manner) (.generate source given check) : Work Exit).run.run machine =
        (.ok exit, after) ↔
      ∃ session generation ready description draft made,
        (opened manner given).run.run machine = (.ok (session, generation), ready) ∧
        (moduleOf session source generation).run.run ready = (.ok (description, draft), made) ∧
        (finish check session source target description draft).run.run made =
          (.ok exit, after) := by
  rw [execute_generate_eq, Action.run_bind_eq_ok_iff]
  constructor
  · rintro ⟨⟨session, generation⟩, ready, opening, ran⟩
    dsimp only at ran
    rw [targetOf_of_opened named filled opening,
      Action.run_bind_of_ok (guardTarget_run isFile check ready)] at ran
    obtain ⟨⟨description, draft⟩, made, making, finishing⟩ := Action.run_bind_eq_ok_iff.mp ran
    exact ⟨session, generation, ready, description, draft, made, opening, making, finishing⟩
  · rintro ⟨session, generation, ready, description, draft, made, opening, making, finishing⟩
    refine ⟨(session, generation), ready, opening, ?_⟩
    dsimp only
    rw [targetOf_of_opened named filled opening,
      Action.run_bind_of_ok (guardTarget_run isFile check ready), Action.run_bind_of_ok making]
    exact finishing

theorem avoids_of_generate {session : Session} {generation : Generation} {ready : Machine}
    (opening : (opened manner given).run.run machine = (.ok (session, generation), ready))
    (avoids : Avoids apart (do
      execute (← openSession manner) (.generate source given check)) machine
      later) :
    Avoids apart (opened manner given) machine later ∧
      Avoids apart (moduleOf session source generation) ready later := by
  rw [execute_generate_eq] at avoids
  obtain ⟨avoidsOpened, avoids⟩ := avoids_bind opening avoids
  dsimp only at avoids
  rw [targetOf_of_opened named filled opening] at avoids
  obtain ⟨-, avoids⟩ := avoids_bind (guardTarget_run isFile check ready) avoids
  refine ⟨avoidsOpened, fun path member => avoids path ?_⟩
  rw [ExceptT.run_bind, Action.looked_bind]
  exact List.mem_append_left _ member

end Halves

/-- A module that was written is checked next. The check succeeds exactly where the document brings
no carriage return into its module; otherwise what was just written counts as out of date. -/
theorem check_of_generate {words checkWords : List String} {manner : Manner}
    {source target : String}
    {given : Generation} {machine after later : Machine}
    (writes : Asks words manner (.generate source given false))
    (checks : Asks checkWords manner (.generate source given true))
    (named : given.output = some target) (filled : target ≠ "") (isFile : target ≠ outputTarget)
    (standing : Standing machine)
    (written : (run words).run.run machine = (.ok .success, after))
    (unaliased : ∀ path ∈ (run words).run.looked machine,
      after.files.resolve after.workingDirectory path ≠
        after.files.resolve after.workingDirectory (.ofText target))
    (resumes : Resumes after later) :
    ∃ document description last,
      ((Document.load source).run later).1.result = .ok document ∧
        (Description.ofDocument document).result = .ok description ∧
        (run checkWords).run.run later =
          (.ok (if Module.descriptionKeepsReturn description then .outdated else .success), last) ∧
        last.files = later.files := by
  rw [run_of_asks writes] at written unaliased
  obtain ⟨session, generation, ready, description, draft, made, opening, making, finishing⟩ :=
    (generate_eq_ok_iff named filled isFile).mp (conclude_eq_success written)
  obtain ⟨text, rfl, writing⟩ := exists_spelling_of_finish isFile finishing
  obtain ⟨place, replaced⟩ := replaced_of_writeModule writing
  -- None of the files that the run looked at is the one that it wrote.
  have avoids : Avoids place
      (conclude (do execute (← openSession manner) (.generate source given false)))
      machine later := by
    intro path member
    rw [resumes.files, resumes.alike.workingDirectory, ← replaced.led]
    exact unaliased path member
  obtain ⟨avoidsOpened, avoidsModule⟩ :=
    avoids_of_generate named filled isFile opening (avoids_of_conclude avoids)
  have opens : Repeats place (opened manner given) machine (session, generation) ready :=
    repeatable_opened standing _ _ opening
  have makes :
      Repeats place (moduleOf session source generation) ready (description, .ok text) made :=
    repeatable_moduleOf session source generation _ _ making
  have keptMade : Kept place made.files later.files := by
    rw [resumes.files]
    exact replaced.kept
  have alikeReady := (makes.alike.trans replaced.alike).trans resumes.alike
  obtain ⟨document, module, loaded, described, assembled, spelled⟩ :=
    exists_document_of_moduleOf making alikeReady keptMade avoidsModule
  -- Both halves go the same way again, on machines that have the same files.
  obtain ⟨between, openedAgain, openedFiles, openedAlike⟩ :=
    opens.again later (opens.alike.trans alikeReady) (makes.kept.trans keptMade) avoidsOpened
  have keptBetween : Kept place made.files between.files := by rwa [openedFiles]
  obtain ⟨checking, madeAgain, madeFiles, madeAlike⟩ :=
    makes.again between (alikeReady.trans openedAlike) keptBetween
      (avoidsModule.of_files_eq openedFiles openedAlike)
  have files : checking.files = after.files :=
    (madeFiles.trans openedFiles).trans resumes.files
  have alike : Alike after checking := (resumes.alike.trans openedAlike).trans madeAlike
  have led : checking.files.resolve checking.workingDirectory (.ofText target) = .ok place := by
    rw [files, alike.workingDirectory]
    exact replaced.led
  have held : checking.files.at? place = some (.file (.text text)) := by
    rw [files]
    exact replaced.held
  obtain ⟨last, checked, unchanged⟩ := checkModule_run led held
  refine ⟨document, description, last, loaded, described, ?_, ?_⟩
  · rw [run_of_asks checks, ← Module.holdsReturn_of_assemble assembled,
      ← holdsReturn_of_spelled spelled.symm]
    refine conclude_run_of_ok ((generate_eq_ok_iff named filled isFile).mpr ?_)
    exact ⟨session, generation, between, description, .ok text, checking, openedAgain,
      madeAgain, checked⟩
  · exact unchanged.trans (files.trans resumes.files.symm)

/-- A document with a carriage return in its title. -/
def returnDocument : String :=
  "\x7b\"openapi\":\"3.0.3\",\"info\":\x7b\"title\":\"a\\rb\",\"version\":\"1\"\x7d," ++
    "\"servers\":[\x7b\"url\":\"/\"\x7d],\"paths\":\x7b\x7d\x7d"

def returnMachine : Machine where
  files := ⟨[(["home"], .directory), (["home", "s.json"], .file (.text returnDocument))]⟩
  workingDirectory := ["home"]
  environment := [("XDG_CONFIG_HOME", "/home")]
  system := "Linux"
  time := default
  input := .text ""
  reply := fun _ => .unreached ""
  mishaps := []
  output := ""
  diagnostics := ""

def returnWords : List String :=
  ["--no-color", "--quiet", "generate", "s.json", "-o", "x.py"]

theorem eq_of_toOption_eq_some {ε α β : Type} {ran : Except ε α × β} {value : α}
    (success : ran.1.toOption = some value) : ran = (.ok value, ran.2) := by
  obtain ⟨outcome, after⟩ := ran
  cases outcome with
  | error failure => contradiction
  | ok given => rw [Option.some.inj success]

theorem exists_run_returnWords :
    ∃ after, (run returnWords).run.run returnMachine = (.ok .success, after) ∧
      (∀ path ∈ (run returnWords).run.looked returnMachine,
        after.files.resolve after.workingDirectory path ≠
          after.files.resolve after.workingDirectory (.ofText "x.py")) ∧
      (((Document.load "s.json").run after).1.result.toOption.bind fun document =>
        (Description.ofDocument document).result.toOption).any Module.descriptionKeepsReturn := by
  have success : ((run returnWords).run.run returnMachine).1.toOption = some .success := by
    decide +kernel
  exact ⟨((run returnWords).run.run returnMachine).2, eq_of_toOption_eq_some success,
    by decide +kernel, by decide +kernel⟩

/-- What was just written counts as out of date. -/
theorem check_of_generate_returnDocument :
    ∃ after last, (run returnWords).run.run returnMachine = (.ok .success, after) ∧
      (run (returnWords ++ ["--check"])).run.run after = (.ok .outdated, last) ∧
      last.files = after.files := by
  obtain ⟨after, written, unaliased, keeps⟩ := exists_run_returnWords
  have writes : Asks returnWords ⟨false, false, true, false⟩
      (.generate "s.json" ⟨none, none, some "x.py"⟩ false) :=
    ⟨.generate, ["s.json", "-o", "x.py"], by decide +kernel⟩
  have checks : Asks (returnWords ++ ["--check"]) ⟨false, false, true, false⟩
      (.generate "s.json" ⟨none, none, some "x.py"⟩ true) :=
    ⟨.generate, ["s.json", "-o", "x.py", "--check"], by decide +kernel⟩
  have standing : Standing returnMachine := by
    unfold Standing
    decide +kernel
  obtain ⟨document, description, last, loaded, described, checked, unchanged⟩ :=
    check_of_generate writes checks rfl (by decide) (by decide) standing written unaliased
      ⟨rfl, Alike.refl after⟩
  rw [loaded, Except.toOption, Option.bind_some, described, Except.toOption,
    Option.any_some] at keeps
  rw [if_pos keeps] at checked
  exact ⟨after, last, written, checked, unchanged⟩

end ApiCompiler.CommandLine
