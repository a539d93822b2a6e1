import ApiCompiler.Module.Function
import ApiCompiler.Module.Helpers
import ApiCompiler.Plan.All

/-!
# Modules

The text of a whole module: a warning, its documentation, the helpers, the address that it calls,
one function for each operation, and the functions by the identifiers of their operations.
-/

namespace ApiCompiler.Module

open Text (quoted)

def describeApi (description : Option String) : String :=
  match description with
  | none => ""
  | some "" => ""
  | some description => s!"\n{proseOf description}\n"

/-- What stands between the triple quotes of a module. -/
def moduleProse (info : Info) : String :=
  proseOf info.title ++ "\n" ++ describeApi info.description ++
    s!"\nAPI version: {proseOf info.version}\n" ++
    unlines [
      "",
      "Every operation is exported through the ``API`` mapping, keyed by its",
      "operationId. Each function is a coroutine returning an :class:`httpx.Response`."]

def warningLines : List String := [
  "# WARNING: This file is automatically generated by specsdk.",
  "# Do not change it in place, it would be overridden by the next build."]

def dispatchLines (baseUrl : String) : List String := [
  "",
  helpers,
  "",
  "",
  "dispatch = send_request",
  "\"\"\"Coroutine sending each request description. Replace it to swap the transport.\"\"\"",
  "",
  s!"BASE_URL = {quoted baseUrl}"]

def entryLine (plan : Plan) : String :=
  s!"    {quoted plan.operationId}: {plan.functionName},"

/-- The names that a module offers to others. -/
def exported : List String := ["API", "MissingParameter"]

def exportList : String :=
  String.intercalate ", " (exported.map fun name => s!"\"{name}\"")

def indexLines (plans : List Plan) : List String :=
  ["", "", "API = \x7b"] ++ plans.map entryLine ++
    ["\x7d", "", s!"__all__ = [{exportList}]"]

/-- The fragments of the module of some plans. -/
def fragments (info : Info) (baseUrl : String) (plans : List Plan) : List Fragment :=
  [.code (unlines warningLines ++ "\"\"\""), .prose (moduleProse info),
    .code ("\"\"\"\n" ++ unlines (dispatchLines baseUrl))] ++
    plans.flatMap functionFragments ++ [.code (unlines (indexLines plans))]

/-- The text of the module of some plans. -/
def render (info : Info) (baseUrl : String) (plans : List Plan) : String :=
  textOf (fragments info baseUrl plans)

/-- Whether a text can be run as a module: nowhere in it may the null character stand. -/
def isLoadable (text : String) : Bool :=
  !text.toList.contains '\x00'

/-- The server that a module calls. -/
def firstServer (description : Description) : Except Failure Server :=
  match description.servers with
  | server :: _ => .ok server
  | [] => .error (.misuse .absentItem)

/-- The text of the module of a description. -/
def assemble (description : Description) (versions : Versions) : Logged String := do
  let plans ← Plan.ofDescription description versions
  let server ← firstServer description
  let text := render description.info server.url plans
  Logged.note (.assembled description.info.title description.info.version plans.length)
  return text

end ApiCompiler.Module
