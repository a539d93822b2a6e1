import ApiCompiler.Description.SchemaTypes
import ApiCompiler.Document.Inlining
import ApiCompiler.Document.Reading
import ApiCompiler.Document.Version
import ApiCompiler.Text.Placeholder

/-!
# Descriptions of documents

Reads the description of an API from a document. Parameters of a path are shared by its operations
unless an operation has one of the same name and location. Parameters that cannot be sent are passed
over with a notice.
-/

namespace ApiCompiler.Description

open Shape

/-- The entries of a mapping. -/
abbrev Fields := List (Value × Value)

/-- The value of a field, or nothing. -/
def get (fields : Fields) (name : String) : Value :=
  (Value.field? fields name).getD .null

/-- The value of a field, or what stands for one that is absent. -/
def getOr (fields : Fields) (name : String) (absent : Value) : Value :=
  (Value.field? fields name).getD absent

def refuse {α : Type} (fault : Document.Fault) : Except Failure α :=
  .error (.document fault)

def misuse {α : Type} (cause : Misuse) : Except Failure α :=
  .error (.misuse cause)

def shown (value : Value) : Except Failure String :=
  value.shown.mapError .misuse

/-- A text field that may be absent or nothing. -/
def checkedText (fields : Fields) (name : String) : Checked (Option String) :=
  (optional text (get fields name)).below name

/-- The name of an API without a title. -/
def defaultTitle : String := "Untitled API"

def extractInfo : Value → Except Failure Info
  | .map fields =>
    let version := get fields "version"
    if version.sameKey .null || version.sameKey (.str "") then refuse .noApiVersion
    else do
      let version ← shown version
      let title := (get fields "title").orElse (.str defaultTitle)
      (Info.mk <$> (text title).below "title" <*> .fits version
        <*> checkedText fields "description").orFail .info
  | _ => refuse .noApiVersion

/-- What stands for a name in an address: the default of its variable, or the name as written. -/
def substitute (declared : Value) (name : List Char) : Except Failure (List Char) :=
  match declared with
  | .map declared =>
    match getOr declared (String.ofList name) (.map []) with
    | .map settings =>
      match Value.field? settings "default" with
      | some value => return (← shown value).toList
      | none => .ok (Text.Piece.group name).write
    | _ => misuse .noFields
  | _ => misuse .noFields

def substitutePiece (declared : Value) : Text.Piece → Except Failure (List Char)
  | .group [] => .ok (Text.Piece.group []).write
  | .group name => substitute declared name
  | piece => .ok piece.write

/-- An address with the names between its braces replaced; what replaces them is final. -/
def substituteAll (declared : Value) (address : String) : Except Failure String := do
  let parts ← (Text.pieces address.toList).mapM (substitutePiece declared)
  return String.ofList parts.flatten

def extractServer (server : Value) : Except Failure Server := do
  let fields := server.entries?.getD []
  match Value.field? fields "url" with
  | none => refuse (.serverWithoutUrl (← server.showable.mapError .misuse))
  | some (.str address) =>
    let url ← substituteAll ((get fields "variables").orElse (.map [])) address
    (Server.mk <$> .fits url <*> checkedText fields "description").orFail .server
  | some _ => misuse .wrongKind

def extractServers : Value → Except Failure (List Server)
  | .list servers => servers.mapM extractServer
  | _ => refuse .serversNotList

/-- The mappings of a list of parameters; nothing is the empty list. -/
def parameterList (owner : Value) : Value → Except Failure (List Fields)
  | .null => .ok []
  | .list parameters =>
    match parameters.mapM Value.entries? with
    | some parameters => .ok parameters
    | none => do refuse (.parametersNotList (← shown owner))
  | _ => do refuse (.parametersNotList (← shown owner))

/-- What tells a parameter from others: its name and location as written. -/
def identity (parameter : Fields) : Value :=
  .tuple [getOr parameter "name" (.str ""), getOr parameter "in" (.str "")]

/-- The parameters of a path that no parameter of the operation replaces, and then those. -/
def mergeParameters (shared own : List Fields) : Except Failure (List Fields) :=
  if (shared ++ own).all fun parameter => (identity parameter).isKey then
    .ok (shared.filter (fun parameter =>
      !own.any fun other => (identity other).sameKey (identity parameter)) ++ own)
  else misuse .wrongKind

def locationOf (location : Value) : Option Location :=
  location.text?.bind Location.ofName?

/-- A parameter that is sent at a location. -/
def extractSent (location : Location) (fields : Fields) : Except Failure Parameter := do
  let required := location == .path || !(getOr fields "required" (.bool false)).isVacant
  let ordered := getOr fields "ordered" (getOr fields "x-ordered" (.bool false))
  let types ← (schemaTypes (get fields "schema")).mapError .misuse
  (Parameter.mk <$> (text (getOr fields "name" (.str ""))).below "name" <*> .fits location
    <*> .fits required <*> .fits (!ordered.isVacant) <*> checkedText fields "description"
    <*> .fits types).orFail .parameter

/-- A parameter, if it can be sent. -/
def extractParameter (fields : Fields) : Logged (Option Parameter) := do
  let location := getOr fields "in" (.str "query")
  match locationOf location with
  | some location => return some (← extractSent location fields)
  | none =>
    Logged.note (.skippedParameter location (getOr fields "name" (.str "")))
    return none

def extractParameters (parameters : List Fields) : Logged (List Parameter) := do
  return (← parameters.mapM extractParameter).filterMap id

/-- The media types that a body's content is declared for. -/
def contentTypes (content : Value) : Except Failure (List Value) :=
  match content.orElse (.map []) with
  | .map entries => .ok (entries.map (·.1))
  | _ => misuse .noFields

def extractBody : Value → Except Failure (Option Body)
  | .null => .ok none
  | .map fields => do
    let types ← contentTypes (get fields "content")
    (some <$> (Body.mk <$> fieldOr false "required" truth fields
      <*> checkedText fields "description"
      <*> (list text (.list types)).below "content_types")).orFail .body
  | _ => misuse .noFields

/-- An operation of a path whose parameters it shares. -/
def extractOperation (path : Value) (shared : List Fields) (method : Method) (fields : Fields) :
    Logged Operation := do
  let owner ← shown path
  let own ← parameterList (.str s!"{method.verb} {owner}") (get fields "parameters")
  let merged ← mergeParameters shared own
  let parameters ← extractParameters merged
  let body ← extractBody (get fields "requestBody")
  (Operation.mk <$> (text path).below "path" <*> .fits method
    <*> (optional text (get fields "operationId")).below "operation_id"
    <*> checkedText fields "summary" <*> checkedText fields "description" <*> .fits parameters
    <*> .fits body).orFail .operation

/-- The method and the fields of an entry of a path that is an operation. -/
def operationAt? (entry : Value × Value) : Option (Method × Fields) := do
  let method ← entry.1.text?.bind Method.ofName?
  let fields ← entry.2.entries?
  return (method, fields)

/-- The operations of a path, in its own order. -/
def extractPath (entry : Value × Value) : Logged (List Operation) :=
  match entry.2 with
  | .map fields => do
    let shared ← parameterList entry.1 (get fields "parameters")
    (fields.filterMap operationAt?).mapM fun (method, operation) =>
      extractOperation entry.1 shared method operation
  | _ => return []

def extractOperations : Value → Logged (List Operation)
  | .map paths => do return (← paths.mapM extractPath).flatten
  | _ => Logged.fail (.document .pathsNotMapping)

def requireSection (fields : Fields) (name : String) : Except Failure Unit :=
  match get fields name with
  | .null => refuse (.noSection name)
  | _ => .ok ()

def requireSections (fields : Fields) : Except Failure Unit := do
  requireSection fields "info"
  requireSection fields "servers"
  requireSection fields "paths"
  if (get fields "servers").isVacant then refuse .noServers

/-- The description that a document without references gives. -/
def ofInlined (document : Value) (formatVersion : String) : Logged Description :=
  match document with
  | .map fields => do
    requireSections fields
    let info ← extractInfo (get fields "info")
    let servers ← extractServers (get fields "servers")
    let operations ← extractOperations (get fields "paths")
    return ⟨info, servers, operations, formatVersion⟩
  | _ => Logged.fail (.misuse .noFields)

/-- The description that a document of an accepted version gives. -/
def extract (document : Value) (formatVersion : String) : Logged Description := do
  ofInlined (← Document.inline document) formatVersion

/-- The description that the root of a document gives, if its version is accepted. -/
def ofRoot (root : Value) : Logged Description := do
  extract root (← Document.acceptVersion root)

/-- The description of a document, which must not be a part of itself. -/
def ofDocument (document : Document) : Logged Description :=
  let work := ofRoot document.root
  { work with result := work.result.mapError document.endless }

end ApiCompiler.Description
