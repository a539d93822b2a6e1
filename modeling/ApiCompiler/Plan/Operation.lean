import ApiCompiler.Failure
import ApiCompiler.Naming
import ApiCompiler.Plan.Path

/-!
# Plans of operations

Plans the function of an operation. Headers that report versions are never arguments; all other
parameters are, each under a name of its own.
-/

namespace ApiCompiler.Plan

open Text

def apiVersionHeader : String := "X-API-Version"

def sdkVersionHeader : String := "X-SDK-Version"

def appVersionHeader : String := "X-APP-Version"

/-- Whether a parameter has the name of a header that reports a version. -/
def isReserved (parameter : Parameter) : Bool :=
  ["x-api-version", "x-sdk-version", "x-app-version"].contains (lowercased parameter.name)

def versionBinding (key : String) : Option String → List HeaderBinding
  | none => []
  | some "" => []
  | some version => [⟨key, .constant version⟩]

/-- The headers of the requests, weakest first. -/
def headerBindings (parameters : Named) (info : Info) (versions : Versions) :
    List HeaderBinding :=
  ⟨apiVersionHeader, .constant info.version⟩ ::
    versionBinding sdkVersionHeader versions.sdk ++ versionBinding appVersionHeader versions.app ++
    (parameters.filter (·.1.location == .header)).map fun (parameter, argument) =>
      ⟨parameter.name, .argument argument⟩

/-- The query entries of the requests. -/
def queryBindings (parameters : Named) : List QueryBinding :=
  (parameters.filter (·.1.location == .query)).map fun (parameter, argument) =>
    ⟨parameter.name, argument, parameter.ordered⟩

def ownerOf (parameter : Parameter) : Owner :=
  .parameter parameter.location parameter.name

/-- The parameters and their arguments; the names that are taken have to differ from all new
ones. -/
def assignArguments (operationId : String) : List (String × Owner) → List Parameter →
    Except Fault Named
  | _, [] => .ok []
  | taken, parameter :: parameters =>
    let argument := Naming.argumentName parameter.name
    match taken.find? (·.1 == argument) with
    | some (_, earlier) =>
      .error (.sharedArgument operationId (ownerOf parameter) earlier argument)
    | none => do
      let taken := (argument, ownerOf parameter) :: taken
      return (parameter, argument) :: (← assignArguments operationId taken parameters)

/-- The type and subtype of a media type, trimmed and without regard to case. -/
def mediaType (contentType : String) : String :=
  let piece := contentType.toList.takeWhile (· != ';')
  String.ofList (lowercase (trim piece))

private def endsWith (ending text : String) : Bool :=
  ending.toList.isSuffixOf text.toList

/-- How a body of a declared media type is carried. -/
def bodyFieldOf : Option String → BodyField
  | none => .json
  | some "" => .json
  | some contentType =>
    let media := mediaType contentType
    if media == "application/json" || endsWith "+json" media || media.toList.contains '*' then .json
    else if media == "application/x-www-form-urlencoded" then .data
    else if media == "multipart/form-data" then .files
    else .content

theorem bodyFieldOf_some {contentType : String} (filled : contentType ≠ "") :
    bodyFieldOf (some contentType) =
      if mediaType contentType == "application/json" ||
          "+json".toList.isSuffixOf (mediaType contentType).toList ||
          (mediaType contentType).toList.contains '*' then .json
      else if mediaType contentType == "application/x-www-form-urlencoded" then .data
      else if mediaType contentType == "multipart/form-data" then .files
      else .content := by
  unfold bodyFieldOf
  split
  · contradiction
  · exact absurd (Option.some.inj ‹_›) filled
  · obtain rfl := Option.some.inj ‹_›
    rfl

def argumentNote (parameter : Parameter) (argument : String) : ArgumentNote where
  argument := argument
  name := parameter.name
  location := parameter.location
  types := String.intercalate "|" parameter.schemaTypes
  required := parameter.required
  description := parameter.description

def notesOf (operation : Operation) (parameters : Named) : FunctionNotes where
  summary := operation.summary
  description := operation.description
  arguments := parameters.map fun (parameter, argument) => argumentNote parameter argument
  bodyDescription := operation.body.bind (·.description)

/-- The arguments of an operation's own parameters. -/
def namedParameters (operationId : String) (operation : Operation) : Except Fault Named :=
  let taken := if operation.body.isSome then [(bodyArgument, Owner.body)] else []
  assignArguments operationId taken (operation.parameters.filter (!isReserved ·))

def build (operation : Operation) (operationId : String) (info : Info) (server : Server)
    (versions : Versions) (parameters : Named) (segments : List Segment) : Plan :=
  let contentType := operation.body.bind (·.contentTypes.head?)
  { operationId
    functionName := Naming.functionName operationId
    arguments := parameters.map (·.2)
    acceptsBody := operation.body.isSome
    request := {
      method := operation.method
      baseUrl := server.url
      segments
      headers := headerBindings parameters info versions
      query := queryBindings parameters
      carriesBody := operation.body.isSome
      bodyField := bodyFieldOf contentType
      contentType
      required := (parameters.filter (·.1.required)).map (·.2) }
    notes := notesOf operation parameters }

def identified (operation : Operation) : Except Fault String :=
  match operation.operationId with
  | none => .error (.noOperationId operation.method operation.path)
  | some "" => .error (.noOperationId operation.method operation.path)
  | some operationId => .ok operationId

/-- The plan of an operation that the first of some servers serves. -/
def ofOperation (operation : Operation) (info : Info) (servers : List Server)
    (versions : Versions) : Except Fault Plan := do
  let operationId ← identified operation
  match servers with
  | [] => throw .noServer
  | server :: _ =>
    let parameters ← namedParameters operationId operation
    let pathParameters := parameters.filter (·.1.location == .path)
    let segments ← (segmentsOf pathParameters operation.path).mapError
      (.pathMismatch operationId operation.path)
    return build operation operationId info server versions parameters segments

end ApiCompiler.Plan
