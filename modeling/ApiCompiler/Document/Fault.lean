import ApiCompiler.Files.Fault
import ApiCompiler.Files.Path
import ApiCompiler.Json.Fault
import ApiCompiler.Value.Display

/-!
# Faults of documents

Why a text gives no API description, and the words for it.
-/

namespace ApiCompiler.Document

/-- What is wrong with a document. -/
inductive Fault where
  | noInput
  /-- The system does not hand out the input. -/
  | unreadInput (fault : Files.Fault)
  | notFetched (address reason : String)
  | refused (address : String) (status : Nat)
  | noFile (path : String)
  /-- The system does not hand out a file that is there. -/
  | unreadFile (path : String) (fault : Files.Fault)
  | emptyFile (path : String)
  | notJson (fault : Json.Fault)
  /-- Neither of the formats that were tried. -/
  | unreadable (json : Option Json.Fault)
  /-- A value of another kind than a mapping. -/
  | notMapping (value : Value)
  | oldFormat (version : Value)
  | noVersion
  | unsupportedVersion (version : Value)
  | externalReference (reference : String)
  | absentKey (reference token : String)
  | badIndex (reference token : String)
  /-- A reference that goes on below a value without parts. -/
  | deadEnd (reference kind : String)
  | noSection (name : String)
  | noServers
  | noApiVersion
  | serversNotList
  | serverWithoutUrl (server : Value)
  | pathsNotMapping
  | parametersNotList (owner : String)
deriving Repr

private def onlyVersionThree : String :=
  "Only OpenAPI 3.x documents can be compiled."

private def unresolved (reference reason : String) : String :=
  s!"Cannot resolve $ref '{reference}': {reason}"

/-- The path that a text writes, as a literal. -/
private def pathLiteral (path : String) : List Char :=
  (Value.str (Files.Path.ofText path).toText).literal

/-- The name of a kind of document. -/
def kindOf : Value → String
  | .null => "empty document"
  | value => value.kind

/-- The words for a fault. -/
def Fault.message : Fault → String
  | .noInput => "No input received from stdin"
  | .unreadInput fault => s!"Failed to read from stdin: {fault.numbered}"
  | .notFetched address reason => s!"Failed to fetch spec from {address}: {reason}"
  | .refused address status => s!"HTTP {status} fetching spec from {address}"
  | .noFile path => s!"Spec file not found: {path}"
  | .unreadFile path fault =>
    s!"Failed to read spec file {path}: {fault.numbered}: {String.ofList (pathLiteral path)}"
  | .emptyFile path => s!"Spec file is empty: {path}"
  | .notJson fault => s!"Invalid JSON: {fault.message}"
  | .unreadable json =>
    let attempt := match json with
      | some fault => s!"\n  JSON error: {fault.message}"
      | none => ""
    s!"Failed to parse spec as JSON or YAML{attempt}\n  YAML error:"
  | .notMapping value => s!"Spec must be a JSON/YAML object (got {kindOf value})"
  | .oldFormat version =>
    s!"Swagger {version.displayed} is not supported. {onlyVersionThree} " ++
      "Consider converting with https://converter.swagger.io"
  | .noVersion => "Missing 'openapi' field. Is this an OpenAPI 3.x document?"
  | .unsupportedVersion version =>
    s!"Unsupported OpenAPI version: {version.displayed}. {onlyVersionThree}"
  | .externalReference reference =>
    s!"External $ref not supported: {reference}. Only internal references (#/...) are handled."
  | .absentKey reference token => unresolved reference s!"key '{token}' not found at path"
  | .badIndex reference token => unresolved reference s!"invalid array index '{token}'"
  | .deadEnd reference kind => unresolved reference s!"cannot navigate into {kind}"
  | .noSection name => s!"OpenAPI document has no '{name}' section"
  | .noServers => "OpenAPI 'servers' section must list at least one server"
  | .noApiVersion => "OpenAPI 'info' section must declare a version"
  | .serversNotList => "OpenAPI 'servers' section must be a list"
  | .serverWithoutUrl server => s!"Server entry without a url: {String.ofList server.literal}"
  | .pathsNotMapping => "OpenAPI 'paths' section must be an object"
  | .parametersNotList owner => s!"'parameters' of {owner} must be an array of objects"

end ApiCompiler.Document
