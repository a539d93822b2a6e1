import ApiCompiler.Document.Source
import ApiCompiler.Plan.All
import ApiCompiler.Proofs.Description.Operations
import ApiCompiler.Proofs.Description.SchemaTypes
import ApiCompiler.Proofs.Stumbling

/-!
# Documents that are not foreseen

Where the way from a document to its plans stumbles. Each part of a document has a shape that it is
read in. A part of another shape that is no foreseen fault makes the way stumble, once all that
comes before it is read.
-/

namespace ApiCompiler.Description

open Checked Logged Outcome Shape

/-- A value that a text is read from: a text, or bytes that write one. -/
inductive IsText : Value → Prop where
  | str (text : String) : IsText (.str text)
  | bytes {content : List UInt8} (writes : (String.fromUTF8? ⟨content.toArray⟩).isSome) :
      IsText (.bytes content)

/-- A text, or nothing in its place. -/
def IsTextOrNothing (value : Value) : Prop :=
  value = .null ∨ IsText value

theorem fits_text_iff {value : Value} : Fits (text value) ↔ IsText value := by
  cases value with
  | str written => exact ⟨fun _ => .str written, fun _ => fits_fits written⟩
  | bytes content =>
      rw [text]
      cases decoded : String.fromUTF8? ⟨content.toArray⟩ with
      | some written => exact ⟨fun _ => .bytes (by rw [decoded]; rfl), fun _ => fits_fits written⟩
      | none =>
          refine ⟨fun fits => absurd fits (not_fits_flawed _), fun writes => ?_⟩
          cases writes with | bytes writes => simp [decoded] at writes
  | _ => exact ⟨fun fits => absurd fits (not_fits_flawed _), nofun⟩

theorem fits_optional_text_iff {value : Value} :
    Fits (Shape.optional text value) ↔ IsTextOrNothing value := by
  rw [IsTextOrNothing, ← fits_text_iff]
  unfold Shape.optional
  split
  · simp
  · rename_i filled
    change Fits (some <$> text value) ↔ _
    simp [show value ≠ .null from filled]

theorem fits_checkedText_iff {fields : Fields} {name : String} :
    Fits (checkedText fields name) ↔ IsTextOrNothing (get fields name) := by
  rw [checkedText, fits_below_iff, fits_optional_text_iff]

theorem shown_eq (value : Value) :
    shown value = if value.isShowable then .ok value.displayed
      else .error (.misuse .badContent) := by
  rw [shown, Value.shown_eq]
  split <;> rfl

theorem exists_shown_iff {value : Value} : (∃ text, shown value = .ok text) ↔
    value.isShowable = true := by
  rw [shown_eq]
  split <;> simp [*]

theorem fits_itemsFrom_iff {items : List Value} {index : Nat} :
    Fits (itemsFrom text index items) ↔ ∀ item ∈ items, IsText item := by
  induction items generalizing index with
  | nil => simp [itemsFrom]
  | cons item items induction =>
      simp [itemsFrom, induction, fits_text_iff]

/-- The fields of an API's name and version that are read. -/
structure InfoFits (fields : Fields) : Prop where
  version : (get fields "version").isShowable = true
  title : IsText ((get fields "title").orElse (.str defaultTitle))
  description : IsTextOrNothing (get fields "description")

/-- A version is named. -/
def NamesVersion (fields : Fields) : Prop :=
  get fields "version" ≠ .null ∧ get fields "version" ≠ .str ""

theorem sameKey_null_iff {value : Value} : value.sameKey .null = true ↔ value = .null := by
  cases value <;> simp [Value.sameKey, Value.size?]

theorem stumbles_extractInfo_iff {info : Value} :
    Stumbles (extractInfo info) ↔ ∃ fields, info = .map fields ∧ NamesVersion fields ∧
      ¬InfoFits fields := by
  cases info with
  | map fields =>
      unfold extractInfo
      dsimp only
      split
      · rename_i unnamed
        have none : ¬NamesVersion fields := by
          rintro ⟨filled, written⟩
          rw [Bool.or_eq_true, sameKey_null_iff, Value.sameKey_str_right] at unnamed
          exact unnamed.elim filled written
        simp [refuse, none]
      · rename_i named
        have names : NamesVersion fields := by
          rw [Bool.or_eq_true, sameKey_null_iff, Value.sameKey_str_right] at named
          exact not_or.mp named
        rw [@Blunt.stumbles_iff_not _ _ (InfoFits fields)]
        · simp [names]
        · exact (Blunt.mapError_misuse _).bind fun _ _ => Blunt.orFail _ _
        · simp only [exists_bind_iff, exists_orFail_iff, fits_seq_iff, fits_map_iff, fits_below_iff,
            fits_text_iff, fits_checkedText_iff, fits_fits, exists_and_right,
            exists_shown_iff, and_true]
          constructor
          · rintro ⟨version, title, description⟩
            exact ⟨version, title, description⟩
          · exact fun fits => ⟨fits.version, fits.title, fits.description⟩
  | _ => simp [extractInfo, refuse]

/-- The name of a variable has a setting that gives a text: the default, if there is one, can be
shown. -/
def VariableFits (declared : Value) (name : String) : Prop :=
  ∃ entries settings, declared = .map entries ∧ getOr entries name (.map []) = .map settings ∧
    ∀ value, Value.field? settings "default" = some value → value.isShowable = true

/-- A server's address whose variables can all be replaced, beside fields that are read. -/
structure ServerFits (fields : Fields) (address : String) : Prop where
  replaced : ∀ name, name ≠ [] → Text.Piece.group name ∈ Text.pieces address.toList →
    VariableFits ((get fields "variables").orElse (.map [])) (String.ofList name)
  description : IsTextOrNothing (get fields "description")

theorem exists_substitute_iff {declared : Value} {name : List Char} :
    (∃ text, substitute declared name = .ok text) ↔ VariableFits declared (String.ofList name) := by
  unfold substitute VariableFits
  cases declared with
  | map entries =>
      dsimp only
      cases held : getOr entries (String.ofList name) (.map []) with
      | map settings =>
          cases default : Value.field? settings "default" with
          | none => simp [held, default]
          | some value => simp [held, default, exists_map_iff, exists_shown_iff]
      | _ => simp [held, misuse]
  | _ => simp [misuse]

theorem blunt_substitute (declared : Value) (name : List Char) :
    Blunt (substitute declared name) := by
  unfold substitute
  split
  · split
    · split
      · exact (Blunt.mapError_misuse _).bind fun _ _ => Blunt.ok _
      · exact Blunt.ok _
    · exact Blunt.misuse _
  · exact Blunt.misuse _

theorem blunt_substitutePiece (declared : Value) (piece : Text.Piece) :
    Blunt (substitutePiece declared piece) := by
  unfold substitutePiece
  split
  · exact Blunt.ok _
  · exact blunt_substitute declared _
  · exact Blunt.ok _

theorem blunt_substituteAll (declared : Value) (address : String) :
    Blunt (substituteAll declared address) :=
  (Blunt.mapM (blunt_substitutePiece declared) _).bind fun _ _ => Blunt.ok _

theorem exists_substituteAll_iff {declared : Value} {address : String} :
    (∃ text, substituteAll declared address = .ok text) ↔
      ∀ name, name ≠ [] → Text.Piece.group name ∈ Text.pieces address.toList →
        VariableFits declared (String.ofList name) := by
  have ofPiece (piece : Text.Piece) : (∃ text, substitutePiece declared piece = .ok text) ↔
      ∀ name, name ≠ [] → piece = .group name → VariableFits declared (String.ofList name) := by
    cases piece with
    | single character => simp [substitutePiece]
    | group name =>
        cases name with
        | nil =>
            exact ⟨fun _ name filled same => absurd (Text.Piece.group.inj same).symm filled,
              fun _ => ⟨_, rfl⟩⟩
        | cons first rest =>
            rw [show substitutePiece declared (.group (first :: rest)) =
              substitute declared (first :: rest) from rfl, exists_substitute_iff]
            grind
  unfold substituteAll
  simp only [exists_bind_iff, pure, Except.pure, Except.ok.injEq, exists_eq',
    and_true, exists_mapM_iff, ofPiece]
  grind

/-- How a server's entry makes reading stumble. -/
inductive ServerStumbles (server : Value) : Prop where
  | unnamed (absent : Value.field? (server.entries?.getD []) "url" = none)
      (long : server.isShowable = false) : ServerStumbles server
  | notText {url : Value} (held : Value.field? (server.entries?.getD []) "url" = some url)
      (other : ∀ address, url ≠ .str address) : ServerStumbles server
  | address {address : String}
      (held : Value.field? (server.entries?.getD []) "url" = some (.str address))
      (misfit : ¬ServerFits (server.entries?.getD []) address) : ServerStumbles server

theorem stumbles_extractServer_iff {server : Value} :
    Stumbles (extractServer server) ↔ ServerStumbles server := by
  unfold extractServer
  dsimp only
  generalize fieldsOf : server.entries?.getD [] = fields
  cases held : Value.field? fields "url" with
  | none =>
      have unnamed : ServerStumbles server ↔ server.isShowable = false := by
        constructor
        · rintro (⟨-, long⟩ | ⟨found, -⟩ | ⟨found, -⟩)
          · exact long
          · simp [fieldsOf, held] at found
          · simp [fieldsOf, held] at found
        · exact .unnamed (fieldsOf ▸ held)
      rw [unnamed, Value.showable]
      cases server.isShowable <;> simp [refuse, bind, Except.bind, Except.mapError]
  | some url =>
      cases url with
      | str address =>
          have named : ServerStumbles server ↔ ¬ServerFits fields address := by
            constructor
            · rintro (⟨absent, -⟩ | ⟨found, other⟩ | ⟨found, misfit⟩)
              · simp [fieldsOf, held] at absent
              · rw [fieldsOf, held, Option.some.injEq] at found
                exact absurd found.symm (other address)
              · rw [fieldsOf, held, Option.some.injEq, Value.str.injEq] at found
                rwa [found, ← fieldsOf]
            · exact fun misfit => .address (fieldsOf ▸ held) (fieldsOf ▸ misfit)
          rw [named]
          refine Blunt.stumbles_iff_not ?_ ?_
          · exact (blunt_substituteAll _ _).bind fun _ _ => Blunt.orFail _ _
          · simp only [exists_bind_iff, exists_orFail_iff, fits_seq_iff, fits_map_iff,
              fits_checkedText_iff, fits_fits, true_and, exists_and_right, exists_substituteAll_iff]
            constructor
            · rintro ⟨replaced, description⟩
              exact ⟨replaced, description⟩
            · exact fun fits => ⟨fits.replaced, fits.description⟩
      | _ =>
          refine ⟨fun _ => .notText (fieldsOf ▸ held) fun _ => by simp, fun _ => ?_⟩
          simp [misuse]

theorem stumbles_extractServers_iff {servers : Value} :
    Stumbles (extractServers servers) ↔ ∃ before server after,
      servers = .list (before ++ server :: after) ∧
        (∀ other ∈ before, ∃ read, extractServer other = .ok read) ∧ ServerStumbles server := by
  cases servers with
  | list servers =>
      simp only [extractServers, Stumbles.mapM_iff, stumbles_extractServer_iff, Value.list.injEq]
  | _ => simp [extractServers, refuse]

/-- The fields of a parameter that are read where it is sent. -/
structure ParameterFits (fields : Fields) : Prop where
  schema : ¬Untypable (get fields "schema")
  name : IsText (getOr fields "name" (.str ""))
  description : IsTextOrNothing (get fields "description")

/-- A parameter is sent where requests have a place for it. -/
def IsSent (fields : Fields) : Prop :=
  (locationOf (getOr fields "in" (.str "query"))).isSome

theorem blunt_extractSent (location : Location) (fields : Fields) :
    Blunt (extractSent location fields) :=
  (Blunt.mapError_misuse _).bind fun _ _ => Blunt.orFail _ _

theorem exists_extractSent_iff {location : Location} {fields : Fields} :
    (∃ parameter, extractSent location fields = .ok parameter) ↔ ParameterFits fields := by
  simp only [extractSent, exists_bind_iff, mapError_eq_ok, schemaTypes, pure, Except.pure,
    exists_orFail_iff,
    fits_seq_iff, fits_map_iff, fits_below_iff, fits_text_iff, fits_checkedText_iff, fits_fits,
    and_true, exists_and_right, Except.ok.injEq, exists_eq', exists_collectTypes_iff]
  constructor
  · rintro ⟨schema, name, description⟩
    exact ⟨schema, name, description⟩
  · exact fun fits => ⟨fits.schema, fits.name, fits.description⟩

theorem result_extractParameter_of_sent {fields : Fields} {location : Location}
    (sent : locationOf (getOr fields "in" (.str "query")) = some location) :
    (extractParameter fields).result = some <$> extractSent location fields := by
  rw [extractParameter, sent, result_bind]
  rfl

theorem result_extractParameter_of_not_sent {fields : Fields} (kept : ¬IsSent fields) :
    (extractParameter fields).result = .ok none := by
  rw [extractParameter, Option.not_isSome_iff_eq_none.mp kept]
  rfl

theorem exists_extractParameter_iff {fields : Fields} :
    (∃ read, (extractParameter fields).result = .ok read) ↔
      (IsSent fields → ParameterFits fields) := by
  by_cases sent : IsSent fields
  · obtain ⟨location, found⟩ := Option.isSome_iff_exists.mp sent
    rw [result_extractParameter_of_sent found, exists_map_iff, exists_extractSent_iff]
    simp [sent]
  · simp [result_extractParameter_of_not_sent sent, sent]

theorem blunt_extractParameter (fields : Fields) : Blunt (extractParameter fields).result := by
  by_cases sent : IsSent fields
  · obtain ⟨location, found⟩ := Option.isSome_iff_exists.mp sent
    rw [result_extractParameter_of_sent found, map_eq_pure_bind]
    exact (blunt_extractSent _ _).bind fun _ _ => Blunt.ok _
  · rw [result_extractParameter_of_not_sent sent]
    exact Blunt.ok _

/-- Parameters are read exactly where those are that are sent. -/
theorem exists_extractParameters_iff {parameters : List Fields} :
    (∃ read, (extractParameters parameters).result = .ok read) ↔
      ∀ parameter ∈ parameters, IsSent parameter → ParameterFits parameter := by
  simp only [extractParameters, result_bind, exists_bind_iff, result_mapM,
    result_pure, Except.ok.injEq,
    exists_eq', and_true, exists_mapM_iff, exists_extractParameter_iff]

theorem blunt_extractParameters (parameters : List Fields) :
    Blunt (extractParameters parameters).result := by
  rw [extractParameters, result_bind, result_mapM]
  exact (Blunt.mapM blunt_extractParameter _).bind fun _ _ => Blunt.ok _

/-- What a list of parameters lists: mappings alone, or nothing. -/
inductive Lists : Value → List Fields → Prop where
  | nothing : Lists .null []
  | list {items : List Value} {parameters : List Fields} (each : items = parameters.map .map) :
      Lists (.list items) parameters

theorem mapM_entries?_eq_some_iff {items : List Value} {parameters : List Fields} :
    items.mapM Value.entries? = some parameters ↔ items = parameters.map .map := by
  induction items generalizing parameters with
  | nil => cases parameters <;> simp
  | cons item items induction =>
      simp only [List.mapM_cons, Option.bind_eq_bind, Option.bind_eq_some_iff, induction]
      cases parameters with
      | nil => simp
      | cons first parameters => cases item <;> simp [Value.entries?, and_comm]

/-- A list of parameters is read, or it is refused by the text of its owner. -/
theorem parameterList_cases (owner value : Value) :
    (∃ parameters, Lists value parameters ∧ parameterList owner value = .ok parameters) ∨
      (¬∃ parameters, Lists value parameters) ∧
        parameterList owner value = shown owner >>= fun text =>
          refuse (.parametersNotList text) := by
  cases value with
  | null => exact .inl ⟨[], .nothing, rfl⟩
  | list items =>
      unfold parameterList
      dsimp only
      split
      · rename_i parameters listed
        exact .inl ⟨parameters, .list (mapM_entries?_eq_some_iff.mp listed), rfl⟩
      · rename_i unlisted
        refine .inr ⟨?_, rfl⟩
        rintro ⟨parameters, lists⟩
        cases lists with
        | list each =>
            rw [mapM_entries?_eq_some_iff.mpr each] at unlisted
            contradiction
  | _ => exact .inr ⟨nofun, rfl⟩

theorem Lists.unique {value : Value} {parameters others : List Fields}
    (lists : Lists value parameters)
    (again : Lists value others) : parameters = others := by
  cases lists with
  | nothing =>
      cases again
      rfl
  | list each =>
      cases again with
      | list same =>
          have injective : Function.Injective (List.map (Value.map ·)) :=
            List.map_injective_iff.mpr fun _ _ => Value.map.inj
          exact injective (each.symm.trans same)

theorem parameterList_eq_ok_iff {owner value : Value} {parameters : List Fields} :
    parameterList owner value = .ok parameters ↔ Lists value parameters := by
  obtain ⟨read, lists, done⟩ | ⟨unlisted, refused⟩ := parameterList_cases owner value
  · rw [done, Except.ok.injEq]
    exact ⟨fun same => same ▸ lists, lists.unique⟩
  · rw [refused, shown_eq]
    refine ⟨fun done => ?_, fun lists => absurd ⟨parameters, lists⟩ unlisted⟩
    split at done <;> contradiction

theorem stumbles_parameterList_iff {owner value : Value} :
    Stumbles (parameterList owner value) ↔
      (¬∃ parameters, Lists value parameters) ∧ owner.isShowable = false := by
  obtain ⟨read, lists, done⟩ | ⟨unlisted, refused⟩ := parameterList_cases owner value
  · rw [done]
    simp only [Stumbles.not_ok, false_iff, not_and]
    exact fun unlisted => absurd ⟨read, lists⟩ unlisted
  · rw [refused, shown_eq]
    cases owner.isShowable <;> simp [unlisted, refuse, bind, Except.bind]

/-- A body that is read: nothing, or a mapping with fields that are read and media types that are
texts. -/
inductive BodyFits : Value → Prop where
  | nothing : BodyFits .null
  | fields {fields content : Fields}
      (contents : (get fields "content").orElse (.map []) = .map content)
      (types : ∀ entry ∈ content, IsText entry.1)
      (required : ∀ value, Value.field? fields "required" = some value → Fits (truth value))
      (description : IsTextOrNothing (get fields "description")) : BodyFits (.map fields)

theorem fits_list_text_iff {types : List Value} :
    Fits (list text (.list types)) ↔ ∀ type ∈ types, IsText type :=
  fits_itemsFrom_iff

theorem blunt_contentTypes (content : Value) : Blunt (contentTypes content) := by
  unfold contentTypes
  split
  · exact Blunt.ok _
  · exact Blunt.misuse _

theorem blunt_extractBody (body : Value) : Blunt (extractBody body) := by
  unfold extractBody
  split
  · exact Blunt.ok _
  · exact (blunt_contentTypes _).bind fun _ _ => Blunt.orFail _ _
  · exact Blunt.misuse _

theorem contentTypes_eq_ok_iff {content : Value} {types : List Value} :
    contentTypes content = .ok types ↔
      ∃ entries, content.orElse (.map []) = .map entries ∧ entries.map (·.1) = types := by
  unfold contentTypes
  split
  · rename_i entries held
    simp [held]
  · rename_i other
    simp only [misuse, reduceCtorEq, false_iff, not_exists, not_and]
    exact fun entries held => absurd held (other entries)

theorem exists_extractBody_iff {body : Value} :
    (∃ read, extractBody body = .ok read) ↔ BodyFits body := by
  cases body with
  | null => exact ⟨fun _ => .nothing, fun _ => ⟨none, rfl⟩⟩
  | map fields =>
      simp only [extractBody, exists_bind_iff, contentTypes_eq_ok_iff,
        exists_orFail_iff, fits_map_iff,
        fits_seq_iff, fits_below_iff, fits_fieldOr_iff, fits_checkedText_iff, fits_list_text_iff]
      constructor
      · rintro ⟨_, ⟨content, contents, rfl⟩, ⟨required, description⟩, types⟩
        exact .fields contents (List.forall_mem_map.mp types) required description
      · rintro (_ | ⟨contents, types, required, description⟩)
        exact ⟨_, ⟨_, contents, rfl⟩, ⟨required, description⟩, List.forall_mem_map.mpr types⟩
  | _ =>
      constructor
      · rintro ⟨_, read⟩
        cases read
      · intro fits
        cases fits

/-! ## Operations -/

/-- The parameters of an operation: those of its path that it does not replace, and its own. -/
def merged (shared own : List Fields) : List Fields :=
  shared.filter (fun parameter => !own.any fun other =>
    (identity other).sameKey (identity parameter)) ++ own

/-- The fields of an operation that are read, once its parameters are listed. -/
structure OperationFits (path : Value) (shared own : List Fields) (fields : Fields) : Prop where
  keys : ∀ parameter ∈ shared ++ own, (identity parameter).isKey = true
  parameters : ∀ parameter ∈ merged shared own, IsSent parameter → ParameterFits parameter
  body : BodyFits (get fields "requestBody")
  path : IsText path
  operationId : IsTextOrNothing (get fields "operationId")
  summary : IsTextOrNothing (get fields "summary")
  description : IsTextOrNothing (get fields "description")

/-- How an operation makes reading stumble. -/
inductive OperationStumbles (path : Value) (shared : List Fields) (fields : Fields) : Prop where
  | path (long : path.isShowable = false) : OperationStumbles path shared fields
  | misfit {own : List Fields} (lists : Lists (get fields "parameters") own)
      (misfit : ¬OperationFits path shared own fields) : OperationStumbles path shared fields

theorem mergeParameters_eq_ok_iff {shared own parameters : List Fields} :
    mergeParameters shared own = .ok parameters ↔
      (∀ parameter ∈ shared ++ own, (identity parameter).isKey = true) ∧
        parameters = merged shared own := by
  unfold mergeParameters
  split
  · rename_i keys
    rw [List.all_eq_true] at keys
    rw [Except.ok.injEq, and_iff_right keys]
    exact eq_comm
  · rename_i keyless
    rw [List.all_eq_true] at keyless
    exact ⟨nofun, fun fits => absurd fits.1 keyless⟩

theorem blunt_mergeParameters (shared own : List Fields) : Blunt (mergeParameters shared own) := by
  unfold mergeParameters
  split
  · exact Blunt.ok _
  · exact Blunt.misuse _

/-- What is read of an operation once its own parameters are listed. -/
theorem stumbles_extractOperation_iff {path : Value} {shared : List Fields} {method : Method}
    {fields : Fields} :
    Stumbles (extractOperation path shared method fields).result ↔
      OperationStumbles path shared fields := by
  have afterLists (own : List Fields) : Stumbles (do
      let parameters ← mergeParameters shared own
      let parameters ← (extractParameters parameters).result
      let body ← extractBody (get fields "requestBody")
      (Operation.mk <$> (text path).below "path" <*> .fits method
        <*> (Shape.optional text (get fields "operationId")).below "operation_id"
        <*> checkedText fields "summary" <*> checkedText fields "description" <*> .fits parameters
        <*> .fits body).orFail .operation) ↔ ¬OperationFits path shared own fields := by
    refine Blunt.stumbles_iff_not ?_ ?_
    · exact (blunt_mergeParameters _ _).bind fun _ _ => (blunt_extractParameters _).bind fun _ _ =>
        (blunt_extractBody _).bind fun _ _ => Blunt.orFail _ _
    · simp only [exists_bind_iff, mergeParameters_eq_ok_iff, exists_orFail_iff,
        fits_map_iff, fits_seq_iff,
        fits_below_iff, fits_text_iff, fits_optional_text_iff, fits_checkedText_iff,
        fits_fits, and_true, exists_and_right, exists_extractParameters_iff, exists_extractBody_iff]
      constructor
      · rintro ⟨_, ⟨keys, rfl⟩, parameters, body, ⟨⟨path, operationId⟩, summary⟩, description⟩
        exact ⟨keys, parameters, body, path, operationId, summary, description⟩
      · intro fits
        exact ⟨_, ⟨fits.keys, rfl⟩, fits.parameters, fits.body,
          ⟨⟨fits.path, fits.operationId⟩, fits.summary⟩, fits.description⟩
  simp only [extractOperation, result_bind, result_liftM, shown_eq]
  cases short : path.isShowable with
  | false => exact ⟨fun _ => .path short, fun _ => Stumbles.error_iff.mpr (by simp)⟩
  | true =>
      rw [if_pos rfl]
      change Stumbles (parameterList _ _ >>= _) ↔ _
      rw [Stumbles.bind_iff, stumbles_parameterList_iff]
      simp only [parameterList_eq_ok_iff, afterLists, Value.isShowable, Bool.true_eq_false,
        and_false, false_or]
      constructor
      · rintro ⟨own, lists, misfit⟩
        exact .misfit lists misfit
      · rintro (long | ⟨lists, misfit⟩)
        · simp [short] at long
        · exact ⟨_, lists, misfit⟩

/-- How the item of a path makes reading stumble. -/
inductive PathStumbles : Value × Value → Prop where
  | owner {path : Value} {item : Fields}
    (unlisted : ¬∃ shared, Lists (get item "parameters") shared)
      (long : path.isShowable = false) : PathStumbles (path, .map item)
  | operation {path : Value} {item fields : Fields} {shared : List Fields}
      {before after : List (Method × Fields)} {method : Method}
        (lists : Lists (get item "parameters") shared)
      (entries : item.filterMap operationAt? = before ++ (method, fields) :: after)
      (earlier : ∀ other ∈ before,
        ∃ operation, (extractOperation path shared other.1 other.2).result = .ok operation)
      (stumbles : OperationStumbles path shared fields) : PathStumbles (path, .map item)

theorem stumbles_extractPath_iff {entry : Value × Value} :
    Stumbles (extractPath entry).result ↔ PathStumbles entry := by
  obtain ⟨path, item⟩ := entry
  cases item with
  | map item =>
      simp only [extractPath, result_bind, result_liftM, Stumbles.bind_iff,
        stumbles_parameterList_iff,
        parameterList_eq_ok_iff, result_mapM, Stumbles.mapM_iff, stumbles_extractOperation_iff]
      constructor
      · rintro (⟨unlisted, long⟩ | ⟨shared, lists, before, ⟨method, fields⟩, after, entries,
          earlier, stumbles⟩)
        · exact .owner unlisted long
        · exact .operation lists entries earlier stumbles
      · rintro (⟨unlisted, long⟩ | ⟨lists, entries, earlier, stumbles⟩)
        · exact .inl ⟨unlisted, long⟩
        · exact .inr ⟨_, lists, _, _, _, entries, earlier, stumbles⟩
  | _ =>
      constructor
      · rintro ⟨_, read, _⟩
        cases read
      · intro stumbles
        cases stumbles

theorem stumbles_extractOperations_iff {paths : Value} :
    Stumbles (extractOperations paths).result ↔ ∃ before entry after,
      paths = .map (before ++ entry :: after) ∧
        (∀ other ∈ before, ∃ operations, (extractPath other).result = .ok operations) ∧
        PathStumbles entry := by
  cases paths with
  | map entries =>
      simp only [extractOperations, result_bind, result_mapM, Stumbles.bind_iff,
        result_pure, Stumbles.not_ok, and_false, exists_false, or_false, Stumbles.mapM_iff,
        stumbles_extractPath_iff, Value.map.injEq]
  | _ => simp [extractOperations, Logged.fail, Logged.quiet]

/-- The sections that a document needs. -/
structure HasSections (fields : Fields) : Prop where
  info : get fields "info" ≠ .null
  servers : (get fields "servers").isVacant = false
  paths : get fields "paths" ≠ .null

theorem requireSection_eq_ok_iff {fields : Fields} {name : String} {value : Unit} :
    requireSection fields name = .ok value ↔ get fields name ≠ .null := by
  unfold requireSection
  split
  · simp [refuse, *]
  · simpa using ‹_›

theorem not_stumbles_requireSection (fields : Fields) (name : String) :
    ¬Stumbles (requireSection fields name) := by
  unfold requireSection
  split <;> simp [refuse]

theorem requireSections_eq_ok_iff {fields : Fields} {value : Unit} :
    requireSections fields = .ok value ↔ HasSections fields := by
  simp only [requireSections, bind_eq_ok, requireSection_eq_ok_iff]
  constructor
  · rintro ⟨_, info, _, -, _, paths, filled⟩
    split at filled
    · contradiction
    · rename_i occupied
      exact ⟨info, Bool.eq_false_iff.mpr occupied, paths⟩
  · rintro ⟨info, occupied, paths⟩
    refine ⟨(), info, (), ?_, (), paths, ?_⟩
    · intro absent
      rw [absent] at occupied
      contradiction
    · rw [occupied]
      rfl

theorem not_stumbles_requireSections (fields : Fields) : ¬Stumbles (requireSections fields) := by
  simp only [requireSections, Stumbles.bind_iff, not_stumbles_requireSection, false_or,
    not_exists, not_and]
  intro _ _ _ _ _ _
  split <;> simp [refuse, pure, Except.pure]

/-- How a document without references makes reading stumble. -/
inductive FlatStumbles : Value → Prop where
  | root {flat : Value} (other : ∀ fields, flat ≠ .map fields) : FlatStumbles flat
  | info {fields info : Fields} (sections : HasSections fields)
    (held : get fields "info" = .map info)
      (named : NamesVersion info) (misfit : ¬InfoFits info) : FlatStumbles (.map fields)
  | server {fields : Fields} {info : Info} {before after : List Value} {server : Value}
      (sections : HasSections fields) (informed : extractInfo (get fields "info") = .ok info)
      (held : get fields "servers" = .list (before ++ server :: after))
      (earlier : ∀ other ∈ before, ∃ read, extractServer other = .ok read)
      (stumbles : ServerStumbles server) : FlatStumbles (.map fields)
  | path {fields before after : Fields} {info : Info} {servers : List Server}
    {entry : Value × Value}
      (sections : HasSections fields) (informed : extractInfo (get fields "info") = .ok info)
      (served : extractServers (get fields "servers") = .ok servers)
      (held : get fields "paths" = .map (before ++ entry :: after))
      (earlier : ∀ other ∈ before, ∃ operations, (extractPath other).result = .ok operations)
      (stumbles : PathStumbles entry) : FlatStumbles (.map fields)

theorem stumbles_ofInlined_iff {flat : Value} {formatVersion : String} :
    Stumbles (ofInlined flat formatVersion).result ↔ FlatStumbles flat := by
  cases flat with
  | map fields =>
      simp only [ofInlined, result_bind, result_liftM, result_pure, Stumbles.bind_iff,
        Stumbles.not_ok, and_false,
        exists_false, or_false, not_stumbles_requireSections, requireSections_eq_ok_iff, false_or,
        stumbles_extractInfo_iff, stumbles_extractServers_iff, stumbles_extractOperations_iff]
      constructor
      · rintro ⟨-, sections, ⟨info, held, named, misfit⟩ | ⟨info, informed,
          ⟨before, server, after, held, earlier, stumbles⟩ | ⟨servers, served,
            before, entry, after, held, earlier, stumbles⟩⟩⟩
        · exact .info sections held named misfit
        · exact .server sections informed held earlier stumbles
        · exact .path sections informed served held earlier stumbles
      · intro stumbles
        cases stumbles with
        | root other => exact absurd rfl (other fields)
        | info sections held named misfit => exact ⟨(), sections, .inl ⟨_, held, named, misfit⟩⟩
        | server sections informed held earlier stumbles =>
            exact ⟨(), sections, .inr ⟨_, informed, .inl ⟨_, _, _, held, earlier, stumbles⟩⟩⟩
        | path sections informed served held earlier stumbles =>
            exact ⟨(), sections,
              .inr ⟨_, informed, .inr ⟨_, served, _, _, _, held, earlier, stumbles⟩⟩⟩
  | _ =>
      refine ⟨fun _ => .root fun _ => by simp, fun _ => ?_⟩
      simp [ofInlined, Logged.fail, Logged.quiet]

/-- How a document makes the way to its plans stumble. -/
inductive DocumentStumbles (document : Value) : Prop where
  /-- The version of an old format cannot be shown. -/
  | oldVersion {version : Value}
    (held : Value.field? (document.entries?.getD []) "swagger" = some version)
      (long : version.isShowable = false) : DocumentStumbles document
  | version (absent : Value.field? (document.entries?.getD []) "swagger" = none)
      (long : (get (document.entries?.getD []) "openapi").isShowable = false) :
        DocumentStumbles document
  | flat {version : String} {flat : Value}
      (accepted : (Document.acceptVersion document).result = .ok version)
      (inlined : Document.inline document = .ok flat) (stumbles : FlatStumbles flat) :
      DocumentStumbles document

theorem stumbles_declaredVersion_iff {entries : Fields} :
    Stumbles (Document.declaredVersion entries) ↔
      (∃ version, Value.field? entries "swagger" = some version ∧ version.isShowable = false) ∨
        Value.field? entries "swagger" = none ∧ (get entries "openapi").isShowable = false := by
  unfold Document.declaredVersion
  cases held : Value.field? entries "swagger" with
  | some version =>
      simp only [Value.showable, Option.some.injEq, exists_eq_left', reduceCtorEq,
        false_and, or_false]
      cases version.isShowable <;>
        simp [bind, Except.bind, Except.mapError, throw, throwThe, MonadExceptOf.throw]
  | none =>
      simp only [reduceCtorEq, false_and, exists_false, true_and, false_or]
      unfold get
      split
      · rename_i absent
        simp [absent, Value.isShowable]
      · simp only [Value.shown_eq]
        cases ((Value.field? entries "openapi").getD .null).isShowable with
        | false => simp [bind, Except.bind, Except.mapError]
        | true =>
            simp only [if_true, Bool.true_eq_false, iff_false]
            change ¬Stumbles (if _ then .ok _ else .error (.document _))
            split <;> simp

theorem result_acceptVersion (document : Value) :
    (Document.acceptVersion document).result =
      Document.declaredVersion (document.entries?.getD []) := by
  unfold Document.acceptVersion
  rw [result_bind, result_liftM]
  cases Document.declaredVersion (document.entries?.getD []) with
  | error failure => rfl
  | ok version =>
      change (Logged.result _) = _
      dsimp only
      split <;> rfl

theorem not_stumbles_inline (document : Value) : ¬Stumbles (Document.inline document) := by
  rintro ⟨failure, failed, unforeseen⟩
  obtain ⟨fault, -, rfl⟩ := mapError_eq_error.mp failed
  exact unforeseen trivial

theorem stumbles_ofRoot_iff {document : Value} :
    Stumbles (ofRoot document).result ↔ DocumentStumbles document := by
  simp only [ofRoot, extract, result_bind, result_liftM, Stumbles.bind_iff, result_acceptVersion,
    stumbles_declaredVersion_iff, not_stumbles_inline, false_or, stumbles_ofInlined_iff]
  constructor
  · rintro ((⟨version, held, long⟩ | ⟨absent, long⟩) | ⟨version, accepted, flat, inlined, stumbles⟩)
    · exact .oldVersion held long
    · exact .version absent long
    · exact .flat ((result_acceptVersion document).trans accepted) inlined stumbles
  · rintro (⟨held, long⟩ | ⟨absent, long⟩ | ⟨accepted, inlined, stumbles⟩)
    · exact .inl (.inl ⟨_, held, long⟩)
    · exact .inl (.inr ⟨absent, long⟩)
    · exact .inr ⟨_, (result_acceptVersion document).symm.trans accepted, _, inlined, stumbles⟩

theorem not_stumbles_orFail (result : Except Plan.Fault α) : ¬Stumbles (Plan.orFail result) := by
  cases result <;> simp [Plan.orFail, Except.mapError]

theorem not_stumbles_addPlan {description : Description} {versions : Versions} {earlier : List Plan}
    {operation : Operation} :
      ¬Stumbles (Plan.addPlan description versions earlier operation).result := by
  simp only [Plan.addPlan, result_bind, result_liftM, Stumbles.bind_iff,
    not_stumbles_orFail, result_pure,
    Stumbles.not_ok, and_false, exists_false, or_false, false_or, not_exists, not_and]
  rintro _ _ ⟨_, same, _⟩
  cases same

theorem not_stumbles_ofDescription (description : Description) (versions : Versions) :
    ¬Stumbles (Plan.ofDescription description versions).result := by
  suffices each : ∀ (operations : List Operation) (earlier : List Plan),
      ¬Stumbles (operations.foldlM (Plan.addPlan description versions) earlier).result
        from each _ []
  intro operations
  induction operations with
  | nil => simp
  | cons operation operations induction =>
      intro earlier
      rw [List.foldlM_cons, result_bind, Stumbles.bind_iff, not_or]
      exact ⟨not_stumbles_addPlan, fun ⟨_, _, stumbles⟩ => induction _ stumbles⟩

/-- The plans of a document. -/
def plansOf (document : Value) (versions : Versions) : Except Failure (List Plan) :=
  (ofRoot document >>= fun description => Plan.ofDescription description versions).result

/-- A document gives plans, or a fault of its own or of its plans, unless one of its parts is of a
shape that nobody foresaw and all that is read before it is read. -/
theorem stumbles_plansOf_iff (document : Value) (versions : Versions) :
    Stumbles (plansOf document versions) ↔ DocumentStumbles document := by
  rw [plansOf, result_bind, Stumbles.bind_iff, stumbles_ofRoot_iff]
  simp [not_stumbles_ofDescription]

/-- A document whose title is a number. -/
def numberedDocument : String :=
  "\x7b\"openapi\":\"3.0.3\",\"info\":\x7b\"title\":5,\"version\":\"1\"\x7d," ++
    "\"servers\":[\x7b\"url\":\"/\"\x7d],\"paths\":\x7b\x7d\x7d"

/-- Whether the way from a text to its plans ends at a record of the wrong shape. -/
def endsMisshapen (text : String) : Bool :=
  match Document.read .unknown text with
  | .error _ => false
  | .ok document =>
    match plansOf document ⟨none, none⟩ with
    | .error (.shape ..) => true
    | _ => false

theorem stumbles_of_endsMisshapen {text : String} (ends : endsMisshapen text = true) :
    ∃ document, Document.read .unknown text = .ok document ∧
      Stumbles (plansOf document ⟨none, none⟩) := by
  unfold endsMisshapen at ends
  split at ends
  · contradiction
  · rename_i document read
    refine ⟨document, read, ?_⟩
    split at ends
    · rename_i failed
      exact ⟨_, failed, id⟩
    · contradiction

/-- A title that is a number is no fault of the document, and no plans come of it. -/
theorem numbered_title_stumbles :
    ∃ document, Document.read .unknown numberedDocument = .ok document ∧
      Stumbles (plansOf document ⟨none, none⟩) :=
  stumbles_of_endsMisshapen (by decide +kernel)

end ApiCompiler.Description
