import ApiCompiler.Module.Fragment
import ApiCompiler.Plan
import ApiCompiler.Text.Quoted

/-!
# Functions of modules

The text of the function that a plan describes: its documentation, the checks of required arguments,
and the request that it dispatches.
-/

namespace ApiCompiler.Module

open Text (quoted)

def orWhenEmpty (text : Option String) (fallback : String) : String :=
  match text with
  | none => fallback
  | some "" => fallback
  | some text => text

def bullet (argument kind description : String) : String :=
  s!"            * ``{argument}``{kind}: {proseAt 16 description}\n"

def argumentBullet (note : ArgumentNote) : String :=
  let optional := if note.required then "" else ", optional"
  bullet note.argument s!" ({proseOf note.types}{optional})"
    (orWhenEmpty note.description s!"{note.location.name} parameter {note.name}")

def bodyBullet (plan : Plan) : String :=
  let media := orWhenEmpty plan.request.contentType ""
  bullet bodyArgument (if media.isEmpty then "" else s!" ({proseOf media})")
    (orWhenEmpty plan.notes.bodyDescription "The request body.")

def describeArguments (plan : Plan) : String :=
  if plan.takesParameters then
    "        parameters: Mapping of call arguments:\n\n" ++
      String.join (plan.notes.arguments.map argumentBullet) ++
      (if plan.acceptsBody then bodyBullet plan else "") ++ "\n"
  else "        _: Ignored.\n"

/-- The description, unless it only repeats the summary. -/
def describeFurther (notes : FunctionNotes) : String :=
  let description := orWhenEmpty notes.description ""
  if description.isEmpty || notes.description == notes.summary then ""
  else s!"\n    {proseAt 4 description}\n"

def describeFailure (plan : Plan) : String :=
  if plan.request.required.isEmpty then ""
  else unlines ["", "    Raises:", "        MissingParameter: If a required argument is absent."]

/-- What stands between the triple quotes of a function. -/
def functionProse (plan : Plan) : String :=
  proseAt 4 (orWhenEmpty plan.notes.summary plan.operationId) ++ "\n" ++
    describeFurther plan.notes ++
    "\n    Args:\n" ++ describeArguments plan ++
    unlines [
      "        options: Overrides merged into the request description",
      "            (``headers``, ``params``, ``timeout``, ``transport``, ...).",
      "",
      "    Returns:",
      "        The :class:`httpx.Response` of the request."] ++
    describeFailure plan ++ "    "

def argumentLookup (argument : String) : String :=
  s!"arguments.get({quoted argument})"

def signature (plan : Plan) : String :=
  let first := if plan.takesParameters then "parameters" else "_"
  s!"async def {plan.functionName}({first}=None, options=None):"

def checkLine (argument : String) : String :=
  s!"    require_parameter(arguments, {quoted argument})"

def headerLine (binding : HeaderBinding) : String :=
  let value := match binding.source with
    | .constant value => quoted value
    | .argument argument => argumentLookup argument
  s!"            {quoted binding.key}: {value},"

def queryLine (binding : QueryBinding) : String :=
  let value := argumentLookup binding.argument
  let value := if binding.ordered then s!"sort_ordered({value})" else value
  s!"        {quoted binding.key}: {value},"

def segmentLine : Segment → String
  | .literal value => s!"            {quoted value},"
  | .parameter _ argument => s!"            str(arguments[{quoted argument}]),"

def contentTypeLines (request : RequestPlan) : List String :=
  if request.sendsContentType then
    let media := quoted (request.contentType.getD "")
    [s!"        \x7b\"Content-Type\": {media}\x7d,"]
  else []

def bodyLine (request : RequestPlan) : String :=
  if request.carriesBody then
    s!"        {quoted request.bodyField.name}: {argumentLookup bodyArgument},"
  else "        \"json\": None,"

/-- The lines of a function behind its documentation. -/
def functionLines (plan : Plan) : List String :=
  let request := plan.request
  (if plan.takesParameters then ["    arguments = dict(parameters or \x7b\x7d)"] else []) ++
    request.required.map checkLine ++
    ["    options = dict(options or \x7b\x7d)", "    headers = merge_headers("] ++
    contentTypeLines request ++
    ["        options.pop(\"headers\", None) or \x7b\x7d,", "        \x7b"] ++
    request.headers.map headerLine ++
    ["        \x7d,", "    )", "    query = \x7b",
      "        **(options.pop(\"params\", None) or \x7b\x7d),"] ++
    request.query.map queryLine ++
    ["    \x7d", "    request = \x7b", "        \"base_url\": BASE_URL,",
      s!"        \"method\": {quoted request.method.verb},", "        \"url\": \"/\".join(["] ++
    request.segments.map segmentLine ++
    ["        ]),", "        \"headers\": clean_headers(headers),",
      "        \"params\": clean_query(query),", bodyLine request, "    \x7d",
      "    request.update(options)", "    return await dispatch(request)"]

/-- The fragments of a function. -/
def functionFragments (plan : Plan) : List Fragment := [
  .code s!"\n\n{signature plan}\n    \"\"\"",
  .prose (functionProse plan),
  .code ("\"\"\"\n" ++ unlines (functionLines plan))]

end ApiCompiler.Module
