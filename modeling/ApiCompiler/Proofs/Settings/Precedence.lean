import ApiCompiler.Proofs.Json.Syntax
import ApiCompiler.Proofs.Logged
import ApiCompiler.Proofs.Settings.Reader

/-!
# Precedence of settings

What each setting comes to: what is given for a run goes before the environment, the environment
before the project's file, and that before the user's. A file that says something else than settings
stops the run, and nothing else does.
-/

namespace ApiCompiler

open Shape

theorem Json.Plain.of_field {entries : List (Value × Value)} (plain : Plain (.map entries))
    {name : String} {value : Value} (held : Value.field? entries name = some value) :
      Plain value := by
  obtain ⟨entry, found, rfl⟩ := Option.map_eq_some_iff.mp held
  cases plain with
  | map _ each => exact each entry (List.mem_of_find?_eq_some found)

namespace Settings

open Files (Content Path)
open Json (Plain)

/-- The settings of generation. -/
inductive Setting where
  | sdkVersion
  | appVersion
  | output

namespace Setting

/-- The name of a setting in files. -/
def key : Setting → String
  | .sdkVersion => "sdk_version"
  | .appVersion => "app_version"
  | .output => "output"

/-- The name of a setting in the environment. -/
def environmentName : Setting → String
  | .sdkVersion => "SPECSDK_SDK_VERSION"
  | .appVersion => "SPECSDK_APP_VERSION"
  | .output => "SPECSDK_OUTPUT"

def of : Setting → Generation → Option String
  | .sdkVersion => Generation.sdkVersion
  | .appVersion => Generation.appVersion
  | .output => Generation.output

/-- What a project says about a setting. -/
def saidBy : Setting → Overrides → Option (Option String)
  | .sdkVersion => Overrides.sdkVersion
  | .appVersion => Overrides.appVersion
  | .output => Overrides.output

end Setting

/-- What a setting comes to. -/
inductive Chosen (given environment : Option String) (project : Option (Option String))
    (user : Option String) : Option String → Prop where
  | given (value : String) (is : given = some value) :
    Chosen given environment project user (some value)
  | environment (value : String) (none : given = none) (is : environment = some value)
      (filled : value ≠ "") : Chosen given environment project user (some value)
  | project (value : Option String) (none : given = none)
      (unset : environment = .none ∨ environment = some "") (said : project = some value) :
      Chosen given environment project user value
  | user (none : given = none) (unset : environment = .none ∨ environment = some "")
      (silent : project = .none) : Chosen given environment project user user

theorem chosen_choose (given environment : Option String) (project : Option (Option String))
    (user : Option String) :
    Chosen given environment project user (choose given environment project user) := by
  unfold choose
  split
  · exact .given _ rfl
  · cases project with
    | none => exact .user rfl (.inr rfl) rfl
    | some value => exact .project value rfl (.inr rfl) rfl
  · rename_i value filled
    exact .environment value rfl rfl fun empty => filled (empty ▸ rfl)
  · cases project with
    | none => exact .user rfl (.inl rfl) rfl
    | some value => exact .project value rfl (.inl rfl) rfl

/-! ## What files say -/

/-- What entries say about a setting: nothing at all, that there is none, or its text. -/
inductive Says (entries : List (Value × Value)) (name : String) :
    Option (Option String) → Prop where
  | silent (absent : Value.field? entries name = none) : Says entries name none
  | nothing (held : Value.field? entries name = some .null) : Says entries name (some none)
  | text (text : String) (held : Value.field? entries name = some (.str text)) :
      Says entries name (some (some text))

/-- What a user's file says about generation: nothing, or what a mapping says about each setting. -/
inductive Generates : Option Value → Generation → Prop where
  | silent : Generates none .unset
  | record {entries : List (Value × Value)} {generation : Generation}
      (each : ∀ setting : Setting, ∃ said, Says entries setting.key said ∧
        setting.of generation = said.getD none) : Generates (some (.map entries)) generation

/-- What a user's file says about how data is shown. -/
inductive Shows : Option Value → Format → Prop where
  | silent : Shows none .auto
  | unnamed {entries : List (Value × Value)} (absent : Value.field? entries "format" = none) :
      Shows (some (.map entries)) .auto
  | named {entries : List (Value × Value)} {format : Format}
      (held : Value.field? entries "format" = some (.str format.name)) :
      Shows (some (.map entries)) format

/-- What the user's file says, if it is there. -/
inductive UserSays : Option Value → Settings → Prop where
  | absent : UserSays none .standard
  | record {entries : List (Value × Value)} {settings : Settings}
      (generates : Generates (Value.field? entries "generation") settings.generation)
      (shows : Shows (Value.field? entries "output") settings.format) :
      UserSays (some (.map entries)) settings

/-- What the project's file says, if it is there. A vacant generation says nothing. -/
inductive ProjectSays : Option Value → Overrides → Prop where
  | absent : ProjectSays none .silent
  | vacant {entries : List (Value × Value)}
      (vacant : ((Value.field? entries "generation").getD .null).isVacant = true) :
      ProjectSays (some (.map entries)) .silent
  | record {entries generation : List (Value × Value)} {overrides : Overrides}
      (held : Value.field? entries "generation" = some (.map generation))
      (each : ∀ setting : Setting, Says generation setting.key (setting.saidBy overrides)) :
      ProjectSays (some (.map entries)) overrides

section Says

variable {entries : List (Value × Value)}

theorem text_eq_fits {value : Value} (plain : Plain value) {text : String} :
    Shape.text value = .fits text ↔ value = .str text := by
  cases plain with
  | str held => simp [Shape.text]
  | _ => simp [Shape.text, Checked.flaw]

theorem optional_text_eq_fits {value : Value} (plain : Plain value) {said : Option String} :
    Shape.optional Shape.text value = .fits said ↔
      value = .null ∧ said = none ∨ ∃ text, value = .str text ∧ said = some text := by
  unfold Shape.optional
  split
  · simp [eq_comm]
  · rename_i filled
    change (some <$> Shape.text value) = _ ↔ _
    rw [Checked.map_eq_fits]
    simp only [text_eq_fits plain, show value ≠ .null from filled, false_and, false_or]
    simp only [eq_comm]

theorem statement_eq_fits (plain : Plain (.map entries)) {name : String}
    {said : Option (Option String)} :
    Overrides.statement name entries = .fits said ↔ Says entries name said := by
  rw [Overrides.statement, fieldOr_eq_fits]
  constructor
  · rintro (⟨absent, rfl⟩ | ⟨held, found, fits⟩)
    · exact .silent absent
    · obtain ⟨value, read, rfl⟩ := Checked.map_eq_fits.mp fits
      obtain ⟨rfl, rfl⟩ | ⟨text, rfl, rfl⟩ := (optional_text_eq_fits (plain.of_field found)).mp read
      · exact .nothing found
      · exact .text text found
  · rintro (absent | found | ⟨text, found⟩)
    · exact .inl ⟨absent, rfl⟩
    · exact .inr ⟨.null, found, rfl⟩
    · exact .inr ⟨.str text, found, rfl⟩

theorem optionalField_eq_fits (plain : Plain (.map entries)) {name : String}
    {value : Option String} :
    optionalField name Shape.text entries = .fits value ↔
      ∃ said, Says entries name said ∧ value = said.getD none := by
  rw [optionalField, fieldOr_eq_fits]
  constructor
  · rintro (⟨absent, rfl⟩ | ⟨held, found, fits⟩)
    · exact ⟨none, .silent absent, rfl⟩
    · obtain ⟨rfl, rfl⟩ | ⟨text, rfl, rfl⟩ := (optional_text_eq_fits (plain.of_field found)).mp fits
      · exact ⟨some none, .nothing found, rfl⟩
      · exact ⟨some (some text), .text text found, rfl⟩
  · rintro ⟨said, absent | found | ⟨text, found⟩, rfl⟩
    · exact .inl ⟨absent, rfl⟩
    · exact .inr ⟨.null, found, rfl⟩
    · exact .inr ⟨.str text, found, rfl⟩

theorem overrides_ofRecord_eq_fits (plain : Plain (.map entries)) {overrides : Overrides} :
    Overrides.ofRecord (.map entries) = .fits overrides ↔
      ∀ setting : Setting, Says entries setting.key (setting.saidBy overrides) := by
  simp only [Overrides.ofRecord, record, Checked.seq_eq_fits, Checked.map_eq_fits,
    statement_eq_fits plain]
  constructor
  · rintro ⟨_, output, ⟨_, appVersion, ⟨sdkVersion, saysSdk, rfl⟩, saysApp, rfl⟩, saysOutput, rfl⟩
    rintro (_ | _ | _)
    exacts [saysSdk, saysApp, saysOutput]
  · intro each
    exact ⟨_, _, ⟨_, _, ⟨_, each .sdkVersion, rfl⟩, each .appVersion, rfl⟩, each .output, rfl⟩

theorem generation_ofRecord_eq_fits (plain : Plain (.map entries)) {generation : Generation} :
    Generation.ofRecord (.map entries) = .fits generation ↔
      ∀ setting : Setting, ∃ said, Says entries setting.key said ∧
        setting.of generation = said.getD none := by
  simp only [Generation.ofRecord, record, Checked.seq_eq_fits, Checked.map_eq_fits,
    optionalField_eq_fits plain]
  constructor
  · rintro ⟨_, output, ⟨_, appVersion, ⟨sdkVersion, saysSdk, rfl⟩, saysApp, rfl⟩, saysOutput, rfl⟩
    rintro (_ | _ | _)
    exacts [saysSdk, saysApp, saysOutput]
  · intro each
    exact ⟨_, _, ⟨_, _, ⟨_, each .sdkVersion, rfl⟩, each .appVersion, rfl⟩, each .output, rfl⟩

theorem generates_iff (plain : Plain (.map entries)) {generation : Generation} :
    fieldOr .unset "generation" Generation.ofRecord entries = .fits generation ↔
      Generates (Value.field? entries "generation") generation := by
  rw [fieldOr_eq_fits]
  constructor
  · rintro (⟨absent, rfl⟩ | ⟨held, found, fits⟩)
    · rw [absent]
      exact .silent
    · rw [found]
      cases held with
      | map own => exact .record ((generation_ofRecord_eq_fits (plain.of_field found)).mp fits)
      | _ => contradiction
  · generalize found : Value.field? entries "generation" = held
    rintro (_ | each)
    · exact .inl ⟨rfl, rfl⟩
    · exact .inr ⟨_, rfl, (generation_ofRecord_eq_fits (plain.of_field found)).mpr each⟩

theorem ofName?_eq_some {name : String} {format : Format} :
    Format.ofName? name = some format ↔ name = format.name := by
  constructor
  · intro named
    simp only [Format.ofName?, Format.named, List.lookup_cons, List.lookup_nil] at named
    grind [Format.name]
  · rintro rfl
    exact Format.ofName?_name format

theorem formatOf_eq_fits {value : Value} {format : Format} :
    formatOf value = .fits format ↔ value = .str format.name := by
  cases value with
  | str name =>
      rw [formatOf, Value.str.injEq, ← ofName?_eq_some]
      cases Format.ofName? name <;> simp [Checked.flaw]
  | _ => simp [formatOf, Checked.flaw]

theorem shows_iff {format : Format} :
    fieldOr .auto "output" (record (fieldOr .auto "format" formatOf)) entries = .fits format ↔
      Shows (Value.field? entries "output") format := by
  rw [fieldOr_eq_fits]
  constructor
  · rintro (⟨absent, rfl⟩ | ⟨held, found, fits⟩)
    · rw [absent]
      exact .silent
    · rw [found]
      cases held with
      | map own =>
          obtain ⟨absent, rfl⟩ | ⟨value, named, shown⟩ := fieldOr_eq_fits.mp fits
          · exact .unnamed absent
          · rw [formatOf_eq_fits.mp shown] at named
            exact .named named
      | _ => contradiction
  · generalize Value.field? entries "output" = held
    rintro (_ | absent | named)
    · exact .inl ⟨rfl, rfl⟩
    · exact .inr ⟨_, rfl, fieldOr_eq_fits.mpr (.inl ⟨absent, rfl⟩)⟩
    · exact .inr ⟨_, rfl, fieldOr_eq_fits.mpr (.inr ⟨_, named, formatOf_eq_fits.mpr rfl⟩)⟩

theorem userSays_iff {value : Value} (plain : Plain value) {settings : Settings} :
    ofRecord value = .fits settings ↔ UserSays (some value) settings := by
  cases value with
  | map entries =>
      simp only [ofRecord, record, Checked.seq_eq_fits, Checked.map_eq_fits, generates_iff plain,
        shows_iff]
      constructor
      · rintro ⟨_, format, ⟨generation, generates, rfl⟩, shows, rfl⟩
        exact .record generates shows
      · intro file
        cases file with
        | record generates shows => exact ⟨_, _, ⟨_, generates, rfl⟩, shows, rfl⟩
  | _ =>
      constructor
      · intro read
        cases read
      · intro file
        cases file

theorem ofRecord_nil : Overrides.ofRecord (.map []) = .fits .silent := rfl

theorem overridesOf_of_vacant
    (vacant : ((Value.field? entries "generation").getD .null).isVacant = true) :
    overridesOf entries = .ok .silent := by
  simp only [overridesOf, Value.orElse, vacant, if_true, ofRecord_nil]

theorem overridesOf_of_map {generation : List (Value × Value)}
    (held : Value.field? entries "generation" = some (.map generation))
    (filled : generation ≠ []) {overrides : Overrides} :
    overridesOf entries = .ok overrides ↔ Overrides.ofRecord (.map generation) =
      .fits overrides := by
  have occupied : (Value.map generation).isVacant = false := by
    simpa [Value.isVacant] using filled
  simp only [overridesOf, held, Option.getD_some, Value.orElse, occupied,
    Bool.false_eq_true, if_false]
  cases Overrides.ofRecord (.map generation) <;> simp

theorem overridesOf_eq_ok_iff (plain : Plain (.map entries)) {overrides : Overrides} :
    overridesOf entries = .ok overrides ↔ ProjectSays (some (.map entries)) overrides := by
  constructor
  · intro read
    by_cases vacant : ((Value.field? entries "generation").getD .null).isVacant = true
    · rw [overridesOf_of_vacant vacant] at read
      cases read
      exact .vacant vacant
    · cases held : Value.field? entries "generation" with
      | none => exact absurd (held ▸ rfl) vacant
      | some value =>
          rw [held, Option.getD_some] at vacant
          cases value with
          | map generation =>
              have filled : generation ≠ [] := by
                rintro rfl
                exact vacant rfl
              have fits := (overridesOf_of_map held filled).mp read
              exact .record held ((overrides_ofRecord_eq_fits (plain.of_field held)).mp fits)
          | _ => simp [overridesOf, Value.orElse, held, vacant] at read
  · intro file
    cases file with
    | vacant vacant => exact overridesOf_of_vacant vacant
    | @record _ generation _ held each =>
        have fits := (overrides_ofRecord_eq_fits (plain.of_field held)).mpr each
        cases generation with
        | nil =>
            rw [ofRecord_nil] at fits
            cases fits
            exact overridesOf_of_vacant (held ▸ rfl)
        | cons => exact (overridesOf_of_map held (by simp)).mpr fits

end Says

/-! ## Runs -/

section Meets

variable {α β : Type} {machine middle ready : Machine}

/-- Some work on a machine ends with what is wanted of it, or with a fault of settings where nothing
is. -/
structure Meets (work : Work α) (machine ready : Machine) (wanted : α → Prop) : Prop where
  ok_iff (value : α) : work.run.run machine = (.ok value, ready) ↔ wanted value
  settled : (∃ value, wanted value) ∨
    ∃ fault after, work.run.run machine = (.error (.settings fault), after)

theorem Meets.congr {work : Work α} {wanted desired : α → Prop}
    (meets : Meets work machine ready wanted)
    (same : ∀ value, wanted value ↔ desired value) : Meets work machine ready desired := by
  obtain rfl : wanted = desired := funext fun value => propext (same value)
  exact meets

theorem Meets.fails_iff {work : Work α} {wanted : α → Prop}
    (meets : Meets work machine ready wanted) :
    (∃ fault after, work.run.run machine = (.error (.settings fault), after)) ↔
      ¬ ∃ value, wanted value := by
  constructor
  · rintro ⟨fault, after, failed⟩ ⟨value, wished⟩
    have ran := (meets.ok_iff value).mpr wished
    rw [failed] at ran
    cases ran
  · exact fun unmet => meets.settled.resolve_left unmet

theorem meets_pure (value : α) : Meets (pure value) machine machine (· = value) :=
  ⟨fun _ => by simp [eq_comm], .inl ⟨value, rfl⟩⟩

theorem meets_throw (fault : Fault) {wanted : α → Prop} (unmet : ∀ value, ¬ wanted value) :
    Meets (throw (.settings fault)) machine ready wanted :=
  ⟨fun value => ⟨nofun, fun wished => absurd wished (unmet value)⟩, .inr ⟨fault, machine, rfl⟩⟩

theorem meets_ofResult (result : Except Fault α) :
    Meets (Work.ofResult (result.mapError .settings)) machine machine fun value =>
      result = .ok value := by
  cases result with
  | ok value => exact (meets_pure value).congr fun other => by simp [eq_comm]
  | error fault => exact meets_throw fault nofun

theorem Meets.bind {work : Work α} {rest : α → Work β} {wanted : α → Prop} {desired : α → β → Prop}
    (first : Meets work machine middle wanted)
    (next : ∀ value, wanted value → Meets (rest value) middle ready (desired value)) :
    Meets (work >>= rest) machine ready fun result => ∃ value,
      wanted value ∧ desired value result := by
  obtain ⟨value, wished⟩ | ⟨fault, after, failed⟩ := first.settled
  · have ran := (first.ok_iff value).mpr wished
    have only (other : α) (asked : wanted other) : other = value := by
      have again := (first.ok_iff other).mpr asked
      rw [ran] at again
      cases again
      rfl
    constructor
    · intro result
      rw [Action.run_bind_of_ok ran, (next value wished).ok_iff result]
      constructor
      · exact fun done => ⟨value, wished, done⟩
      · rintro ⟨other, asked, done⟩
        exact only other asked ▸ done
    · rw [Action.run_bind_of_ok ran]
      obtain ⟨result, done⟩ | failed := (next value wished).settled
      · exact .inl ⟨result, value, wished, done⟩
      · exact .inr failed
  · have unmet := first.fails_iff.mp ⟨fault, after, failed⟩
    refine ⟨fun result => ?_, .inr ⟨fault, after, Action.run_bind_of_error failed⟩⟩
    rw [Action.run_bind_of_error failed]
    exact ⟨nofun, fun ⟨value, wished, _⟩ => absurd ⟨value, wished⟩ unmet⟩

theorem Meets.behind {work : Work α} {rest : α → Work β} {given : α} {wanted : β → Prop}
    (ran : work.run.run machine = (.ok given, middle))
    (next : Meets (rest given) middle ready wanted) :
    Meets (work >>= rest) machine ready wanted := by
  refine ⟨fun result => ?_, ?_⟩
  · rw [Action.run_bind_of_ok ran]
    exact next.ok_iff result
  · rw [Action.run_bind_of_ok ran]
    exact next.settled

end Meets

/-- Whether there is a file at a path, and what it holds. A file that is there is handed out. -/
inductive Holds (machine : Machine) (path : Path) : Option Content → Prop where
  | absent (none : machine.files.isFile machine.workingDirectory path = .ok false) :
      Holds machine path .none
  | present {content : Content}
      (found : machine.files.find machine.workingDirectory path = .ok (.file content))
      (handed : content.read ≠ .error .denied) : Holds machine path (some content)

/-- The value that a file writes in JSON, if the file is there. -/
inductive Writes : Option Content → Option Value → Prop where
  | absent : Writes none none
  | present {content : Content} {text : String} {value : Value} (reads : content.read = .ok text)
      (parsed : parse text = .ok value) : Writes (some content) (some value)

theorem Writes.plain {content : Option Content} {value : Value}
    (writes : Writes content (some value)) :
    Plain value := by
  cases writes with
  | present _ parsed => exact @Json.plain_of_read .forNames _ _ parsed

/-- What the user's file has to say for it to be read. -/
def UserFile (content : Option Content) (user : Settings) : Prop :=
  ∃ value?, Writes content value? ∧ UserSays value? user

/-- What the project's file has to say for it to be read. -/
def ProjectFile (content : Option Content) (overrides : Overrides) : Prop :=
  ∃ value?, Writes content value? ∧ ProjectSays value? overrides

section Files

variable {machine ready : Machine} {path directory : Path} {content : Option Content}

/-- What is handed out reads as a text or writes none. -/
theorem read_cases {content : Content} (handed : content.read ≠ .error .denied) :
    (∃ text, content.read = .ok text) ∨ ∃ fault, content.read = .error (.notText fault) := by
  cases content with
  | text written => exact .inl ⟨_, rfl⟩
  | bytes written =>
      rw [Content.read]
      cases Text.Utf8.decode written with
      | ok characters => exact .inl ⟨_, rfl⟩
      | error fault => exact .inr ⟨fault, rfl⟩
  | withheld written => exact absurd rfl handed

theorem Writes.of_read {content : Content} {text : String} (reads : content.read = .ok text)
    {value? : Option Value} :
    Writes (some content) value? ↔ ∃ value, parse text = .ok value ∧ some value = value? := by
  constructor
  · intro writes
    cases writes with
    | @present _ other value again parsed =>
        obtain rfl := Except.ok.inj (reads.symm.trans again)
        exact ⟨value, parsed, rfl⟩
  · rintro ⟨value, parsed, rfl⟩
    exact .present reads parsed

theorem meets_readFile? (owner : Owner) (holds : Holds machine path content) :
    Meets (readFile? owner path) machine machine (Writes content) := by
  cases holds with
  | absent none =>
      have asked : (Work.onFiles (Action.query (.isFile path))).run.run machine =
        (.ok false, machine) :=
        Work.onFiles_eq_ok_iff.mpr (Prod.ext none rfl)
      refine Meets.behind asked ((meets_pure _).congr fun value? => ?_)
      exact ⟨fun is => is ▸ .absent, fun writes => by cases writes; rfl⟩
  | @present content found handed =>
      have asked : (Work.onFiles (Action.query (.isFile path))).run.run machine =
        (.ok true, machine) :=
        Work.onFiles_eq_ok_iff.mpr (Prod.ext (Files.isFile_eq_ok_true_iff.mpr ⟨content, found⟩) rfl)
      refine Meets.behind asked (Meets.behind (Work.run_lift _ _) ?_)
      have answered : (machine.answer (.read path)).1 = content.read := by
        change machine.files.read machine.workingDirectory path = content.read
        rw [Files.read, found]
        rfl
      rw [Action.run_query, answered]
      obtain ⟨text, reads⟩ | ⟨fault, reads⟩ := read_cases handed
      · refine Meets.congr ?_ fun value? => (Writes.of_read reads).symm
        rw [reads]
        dsimp only
        cases parse text with
        | ok value => exact (meets_pure (some value)).congr fun value? => by simp [eq_comm]
        | error fault =>
            refine meets_throw _ ?_
            rintro value? ⟨_, same, _⟩
            cases same
      · rw [reads]
        refine meets_throw _ fun value? writes => ?_
        cases writes with
        | present again _ => cases reads.symm.trans again

theorem meets_readUser (asked : configDirectory.run.run machine = (.ok directory, ready))
    (holds : Holds ready (directory.child "config.json") content) :
    Meets readUser machine ready (UserFile content) := by
  refine Meets.behind asked ((meets_readFile? .user holds).bind fun value? writes => ?_)
  cases value? with
  | none =>
      refine (meets_pure standard).congr fun user => ⟨fun is => is ▸ .absent, fun file => ?_⟩
      cases file
      rfl
  | some value =>
      dsimp only
      refine Meets.congr ?_ fun user => userSays_iff writes.plain
      cases ofRecord value with
      | fits settings => exact (meets_pure settings).congr fun user => by simp [eq_comm]
      | flawed complaints => exact meets_throw _ nofun

theorem meets_readProject
    (holds :
      Holds machine ((⟨.root, machine.workingDirectory⟩ : Path).child "specsdk.json") content) :
    Meets readProject machine machine fun project => Writes content (project.map Value.map) := by
  suffices parted : Meets readProject machine machine fun project =>
      ∃ value?, Writes content value? ∧ value? = project.map Value.map from
    parted.congr fun project => exists_eq_right
  refine Meets.behind (Work.run_lift _ _) ((meets_readFile? .project holds).bind fun value? _ => ?_)
  cases value? with
  | none => exact (meets_pure none).congr fun project => by cases project <;> simp
  | some value =>
      cases value with
      | map entries =>
          exact (meets_pure (some entries)).congr fun project => by cases project <;> simp [eq_comm]
      | _ => exact meets_throw _ fun project => by cases project <;> simp

/-- What the project's file says, by the entries that are read of it. -/
theorem projectFile_iff {overrides : Overrides} :
    ProjectFile content overrides ↔ ∃ project : Option (List (Value × Value)),
      Writes content (project.map Value.map) ∧ overridesOf (project.getD []) = .ok overrides := by
  constructor
  · rintro ⟨value?, writes, said⟩
    cases said with
    | absent => exact ⟨none, writes, rfl⟩
    | vacant vacant => exact ⟨some _, writes, overridesOf_of_vacant vacant⟩
    | record held each =>
        exact ⟨some _, writes, (overridesOf_eq_ok_iff writes.plain).mpr (.record held each)⟩
  · rintro ⟨project, writes, read⟩
    refine ⟨project.map Value.map, writes, ?_⟩
    cases project with
    | none =>
        obtain rfl := Except.ok.inj read
        exact .absent
    | some entries => exact (overridesOf_eq_ok_iff writes.plain).mp read

end Files

/-- What the environment of a machine says about the settings. -/
def environmentOf (machine : Machine) : Generation where
  sdkVersion := machine.environment.lookup "SPECSDK_SDK_VERSION"
  appVersion := machine.environment.lookup "SPECSDK_APP_VERSION"
  output := machine.environment.lookup "SPECSDK_OUTPUT"

theorem readEnvironment_run (machine : Machine) :
    readEnvironment.run.run machine = (.ok (environmentOf machine), machine) := rfl

section Effective

variable {given : Generation} {machine ready : Machine} {directory : Path}
  {userContent projectContent : Option Content}
  (asked : configDirectory.run.run machine = (.ok directory, ready))
  (user : Holds ready (directory.child "config.json") userContent)
  (project :
    Holds ready ((⟨.root, ready.workingDirectory⟩ : Path).child "specsdk.json") projectContent)

include asked user project

theorem meets_effective :
    Meets (effective given) machine ready fun settings => ∃ user, UserFile userContent user ∧
      ∃ overrides, ProjectFile projectContent overrides ∧
        settings = { user with
          generation := layer given (environmentOf ready) overrides user.generation } := by
  refine (meets_readUser asked user).bind fun user _ => ?_
  suffices parted : Meets _ ready ready fun settings => ∃ project : Option (List (Value × Value)),
      Writes projectContent (project.map Value.map) ∧
        ∃ overrides, overridesOf (project.getD []) = .ok overrides ∧
          settings = { user with
            generation := layer given (environmentOf ready) overrides user.generation } by
    refine parted.congr fun settings => ?_
    simp only [projectFile_iff]
    grind
  refine (meets_readProject project).bind fun project _ => ?_
  refine (meets_ofResult _).bind fun overrides _ => ?_
  exact Meets.behind (readEnvironment_run ready) ((meets_pure _).congr fun settings => by simp)

/-- The settings of a run are read unless a file that is there says something else than settings.
Each setting then comes from the first that says something about it, and how data is shown comes
from the user's file. -/
theorem effective_precedence :
    ((∃ fault after, (effective given).run.run machine = (.error (.settings fault), after)) ↔
        ¬((∃ user, UserFile userContent user) ∧ ∃ overrides,
          ProjectFile projectContent overrides)) ∧
      ∀ user overrides, UserFile userContent user → ProjectFile projectContent overrides →
        ∃ settings, (effective given).run.run machine = (.ok settings, ready) ∧
          settings.format = user.format ∧
          ∀ setting : Setting, Chosen (setting.of given)
            (ready.environment.lookup setting.environmentName) (setting.saidBy overrides)
            (setting.of user.generation) (setting.of settings.generation) := by
  have meets : Meets (effective given) machine ready _ := meets_effective asked user project
  constructor
  · rw [meets.fails_iff]
    grind
  · intro user overrides userFile projectFile
    refine ⟨_, (meets.ok_iff _).mpr ⟨user, userFile, overrides, projectFile, rfl⟩, rfl, ?_⟩
    rintro (_ | _ | _) <;> exact chosen_choose ..

end Effective

/-- A user's file that sets all there is to set. -/
def userText : String :=
  "\x7b\"generation\":\x7b\"sdk_version\":\"1\",\"app_version\":\"1\",\"output\":\"a.py\"\x7d," ++
    "\"output\":\x7b\"format\":\"json\"\x7d\x7d"

/-- A project's file that withdraws one setting. -/
def projectText : String :=
  "\x7b\"generation\":\x7b\"app_version\":null,\"output\":\"b.py\"\x7d\x7d"

/-- A machine with both files, whose environment sets a version and leaves the target empty. -/
def layeredMachine : Machine where
  files := ⟨[(["home"], .directory), (["home", "specsdk"], .directory),
    (["home", "specsdk", "config.json"], .file (.text userText)),
    (["home", "specsdk.json"], .file (.text projectText))]⟩
  workingDirectory := ["home"]
  environment :=
    [("XDG_CONFIG_HOME", "/home"), ("SPECSDK_SDK_VERSION", "2"), ("SPECSDK_OUTPUT", "")]
  system := "Linux"
  time := default
  input := .text ""
  reply := fun _ => .unreached ""
  mishaps := []
  output := ""
  diagnostics := ""

/-- The environment sets one version, the project withdraws the other and names the target. -/
theorem effective_precedence_layeredMachine :
    ∃ user overrides settings, UserFile (some (.text userText)) user ∧
      ProjectFile (some (.text projectText)) overrides ∧
      (effective .unset).run.run layeredMachine = (.ok settings, layeredMachine) ∧
      settings = ⟨⟨some "2", none, some "b.py"⟩, .json⟩ := by
  have directory : (configDirectory.run.run layeredMachine) =
      (.ok ⟨.root, ["home", "specsdk"]⟩, layeredMachine) := rfl
  have user : Holds layeredMachine ((⟨.root, ["home", "specsdk"]⟩ : Path).child "config.json")
      (some (.text userText)) := .present (by decide +kernel) nofun
  have project : Holds layeredMachine
      ((⟨.root, layeredMachine.workingDirectory⟩ : Path).child "specsdk.json")
      (some (.text projectText)) := .present (by decide +kernel) nofun
  have success : ((effective .unset).run.run layeredMachine).1.toOption =
      some ⟨⟨some "2", none, some "b.py"⟩, .json⟩ := by decide +kernel
  obtain ⟨fails_iff, resolves⟩ := @effective_precedence .unset _ _ _ _ _ directory user project
  obtain ⟨⟨said, userFile⟩, overrides, projectFile⟩ : (∃ user, UserFile _ user) ∧
      ∃ overrides, ProjectFile _ overrides := by
    by_contra unread
    obtain ⟨fault, after, failed⟩ := fails_iff.mpr unread
    rw [failed] at success
    contradiction
  obtain ⟨settings, ran, -, -⟩ := resolves said overrides userFile projectFile
  rw [ran] at success
  exact ⟨said, overrides, settings, userFile, projectFile, ran, Option.some.inj success⟩

end Settings

end ApiCompiler
