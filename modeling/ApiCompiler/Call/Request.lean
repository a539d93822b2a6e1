import ApiCompiler.Call.Fault
import ApiCompiler.Call.Layers
import ApiCompiler.Call.Mapping
import ApiCompiler.Call.Ordering
import ApiCompiler.Plan

/-!
# Requests of calls

The request that the function of a plan dispatches for some arguments and options. Required
arguments are checked before anything else is looked at. Declared headers and query entries win over
those of the caller; what else the options hold replaces parts of the finished request.
-/

namespace ApiCompiler.Call

/-- Gives up because of a value. -/
def lift {α : Type} (result : Except Misuse α) : Except Fault α :=
  result.mapError .misuse

/-- The arguments of a call; a function without parameters has none. -/
def argumentsOf (plan : Plan) (parameters : Value) : Except Misuse Entries :=
  if plan.takesParameters then optionalEntries parameters else .ok []

/-- Checks the required arguments in their order. -/
def checkRequired (arguments : Entries) : List String → Except Fault Unit
  | [] => .ok ()
  | argument :: rest => do
    let _ ← requireArgument (.map arguments) (.str argument)
    checkRequired arguments rest

def contentTypeLayer (request : RequestPlan) : List Value :=
  if request.sendsContentType then
    [.map [(.str "Content-Type", .str (request.contentType.getD ""))]]
  else []

def sourceValue (arguments : Entries) : HeaderSource → Value
  | .constant value => .str value
  | .argument name => entry arguments name

/-- The headers that a plan binds. -/
def boundHeaders (request : RequestPlan) (arguments : Entries) : Entries :=
  Value.ofEntries (request.headers.map fun binding =>
    (.str binding.key, sourceValue arguments binding.source))

/-- The headers of a request, those of the caller below those of the plan. -/
def headersOf (request : RequestPlan) (arguments : Entries) (callers : Value) :
    Except Misuse Entries := do
  let layers := contentTypeLayer request ++
    [callers.orElse (.map []), .map (boundHeaders request arguments)]
  return setHeaders (← mergeHeaders layers)

def queryValue (functions : List String) (arguments : Entries) (binding : QueryBinding) :
    Except Misuse Value :=
  let value := entry arguments binding.argument
  if binding.ordered then sortOrderedAmong functions value else .ok value

def bindQuery (functions : List String) (arguments query : Entries)
    (binding : QueryBinding) : Except Misuse Entries := do
  return Value.insert query (.str binding.key) (← queryValue functions arguments binding)

/-- The query of a request; declared entries replace those of the caller. -/
def queryOf (functions : List String) (request : RequestPlan) (arguments : Entries)
    (callers : Value) : Except Misuse Entries := do
  let given ← mappingEntries (callers.orElse (.map []))
  return sentQuery (← request.query.foldlM (bindQuery functions arguments) given)

def segmentText (arguments : Entries) : Segment → Except Misuse String
  | .literal value => .ok value
  | .parameter _ argument =>
    match Value.field? arguments argument with
    | some value => value.shown
    | none => .error .absentKey

/-- The address of a request below the base address. -/
def urlOf (request : RequestPlan) (arguments : Entries) : Except Misuse String := do
  return String.intercalate "/" (← request.segments.mapM (segmentText arguments))

def bodyEntry (request : RequestPlan) (arguments : Entries) : Value × Value :=
  if request.carriesBody then (.str request.bodyField.name, entry arguments bodyArgument)
  else (.str BodyField.json.name, .null)

/-- The request before the remaining options replace parts of it. -/
def requestOf (functions : List String) (request : RequestPlan) (arguments options : Entries) :
    Except Misuse Entries := do
  let headers ← headersOf request arguments (entry options "headers")
  let query ← queryOf functions request arguments (entry options "params")
  let url ← urlOf request arguments
  return [
    (.str "base_url", .str request.baseUrl), (.str "method", .str request.method.verb),
    (.str "url", .str url), (.str "headers", .map headers), (.str "params", .map query),
    bodyEntry request arguments]

/-- The request that the function of a plan dispatches, in a module with functions of given
names. -/
def evaluate (functions : List String) (plan : Plan) (parameters options : Value) :
    Except Fault Entries := do
  let arguments ← lift (argumentsOf plan parameters)
  checkRequired arguments plan.request.required
  let options ← lift (optionalEntries options)
  let request ← lift (requestOf functions plan.request arguments options)
  return update request (without (without options "headers") "params")

/-- The request of a call by the identifier of an operation, with up to two arguments. -/
def call (plans : List Plan) (operationId : String) (arguments : List Value) :
    Except Fault Entries :=
  let functions := plans.map (·.functionName)
  match plans.find? (·.operationId == operationId), arguments with
  | none, _ => .error (.misuse .absentKey)
  | some plan, [] => evaluate functions plan .null .null
  | some plan, [parameters] => evaluate functions plan parameters .null
  | some plan, [parameters, options] => evaluate functions plan parameters options
  | some _, _ => .error (.misuse .wrongKind)

end ApiCompiler.Call
