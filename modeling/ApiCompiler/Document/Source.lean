import ApiCompiler.Action
import ApiCompiler.Charset
import ApiCompiler.Document.Reading
import ApiCompiler.Logged
import ApiCompiler.Text.Blank
import ApiCompiler.Text.Lowercase
import ApiCompiler.Wire.Url

/-!
# Sources of documents

Reads the document that a source names: a dash is the input, what starts as a web address is
fetched, and all else is the path of a file. The name or the type of what is read tells its format.
-/

namespace ApiCompiler.Document

/-- The format that a file's name ending tells. -/
def expectedBySuffix (suffix : String) : Expected :=
  match Text.lowercased suffix with
  | ".json" => .json
  | ".yaml" => .yaml
  | ".yml" => .yaml
  | _ => .unknown

def mentions (text word : String) : Bool :=
  (text.splitOn word).length > 1

/-- The format that a media type tells. -/
def expectedByType (contentType : String) : Expected :=
  if mentions contentType "json" then .json
  else if mentions contentType "yaml" || mentions contentType "yml" then .yaml
  else .unknown

/-- The document of a text that must not be blank. What the system does not hand out is a fault of
the document; bytes that write no text are not. -/
def ofHanded (expected : Expected) (blank : Fault) (unread : Files.Fault → Fault) :
    Except Files.Fault String → Except Failure Document
  | .ok text => if Text.isAllBlank text then .error (.document blank) else ofText expected text
  | .error fault =>
    .error (if fault.number?.isSome then .document (unread fault) else .files fault)

def ofInput : Action (Except Failure Document) := do
  return ofHanded .unknown .noInput .unreadInput (← Action.query .input)

/-- The document that an address gives; only some numbers of a reply mean success. -/
def ofReply (address : String) : Reply → Except Failure Document
  | .unreached reason => .error (.document (.notFetched address reason))
  | .answered status contentType content =>
    if 200 ≤ status && status < 300 then
      match (Charset.ofContentType contentType).read content with
      | .ok text => ofText (expectedByType contentType) text
      | .error fault => .error (.charset fault)
    else .error (.document (.refused address status))

/-- An address has to be one that a request could be sent to. -/
def checkAddress (address : String) : Except Failure Unit :=
  (Wire.Url.ofText address >>= Wire.Url.checkHost).mapError .wire

def ofAddress (address : String) : Action (Except Failure Document) := do
  match checkAddress address with
  | .ok () => return ofReply address (← Action.query (.fetch address))
  | .error failure => return .error failure

def ofFile (name : String) : Action (Except Failure Document) := do
  let path := Files.Path.ofText name
  match ← Action.query (.isFile path) with
  | .error fault => return .error (.files fault)
  | .ok false => return .error (.document (.noFile name))
  | .ok true =>
    return ofHanded (expectedBySuffix path.suffix) (.emptyFile name) (.unreadFile name)
      (← Action.query (.read path))

/-- Leaves a notice before what comes of reading. -/
def noted (notice : Notice) (reading : Action (Except Failure Document)) :
    Action (Logged Document) := do
  return ⟨[notice], ← reading⟩

/-- The document that a source names. -/
def load (source : String) : Action (Logged Document) :=
  if source = "-" then noted .readingInput ofInput
  else if source.startsWith "http://" || source.startsWith "https://" then
    noted (.fetching source) (ofAddress source)
  else noted (.readingFile source) (ofFile source)

end ApiCompiler.Document
