import ApiCompiler.Description

/-!
# Plans

What the function of an operation does with its arguments, fixed ahead of every call: the pieces of
the path, the headers and query entries and where their values come from, the arguments that have to
be there, and what its documentation says.
-/

namespace ApiCompiler

/-- A piece of a path. -/
inductive Segment where
  | literal (value : String)
  /-- Filled with an argument. -/
  | parameter (name argument : String)
deriving Repr, DecidableEq

/-- Where the value of a header comes from. -/
inductive HeaderSource where
  | constant (value : String)
  | argument (name : String)
deriving Repr, DecidableEq

/-- A header of the requests; of two with one name the later counts. -/
structure HeaderBinding where
  key : String
  source : HeaderSource
deriving Repr, DecidableEq

/-- A query entry of the requests. -/
structure QueryBinding where
  key : String
  argument : String
  ordered : Bool
deriving Repr, DecidableEq

/-- How a request carries its body. -/
inductive BodyField where
  | json
  | data
  | files
  | content
deriving Repr, DecidableEq

def BodyField.name : BodyField → String
  | .json => "json"
  | .data => "data"
  | .files => "files"
  | .content => "content"

/-- The argument that holds the body. -/
def bodyArgument : String := "body"

/-- The requests of an operation. -/
structure RequestPlan where
  method : Method
  baseUrl : String
  segments : List Segment
  headers : List HeaderBinding
  query : List QueryBinding
  carriesBody : Bool
  bodyField : BodyField
  /-- The first media type that is declared for the body. -/
  contentType : Option String
  /-- The arguments that have to be there, in the order of their checks. -/
  required : List String
deriving Repr, DecidableEq

/-- What the documentation says about an argument. -/
structure ArgumentNote where
  argument : String
  name : String
  location : Location
  types : String
  required : Bool
  description : Option String
deriving Repr, DecidableEq

/-- What the documentation of a function says. -/
structure FunctionNotes where
  summary : Option String
  description : Option String
  arguments : List ArgumentNote
  bodyDescription : Option String
deriving Repr, DecidableEq

/-- The function of an operation. -/
structure Plan where
  operationId : String
  functionName : String
  arguments : List String
  acceptsBody : Bool
  request : RequestPlan
  notes : FunctionNotes
deriving Repr, DecidableEq

/-- The versions that requests report beside that of the API. -/
structure Versions where
  sdk : Option String
  app : Option String
deriving Repr, DecidableEq

namespace RequestPlan

/-- Whether the declared media type is sent as a header, as nothing else would tell it. -/
def sendsContentType (request : RequestPlan) : Bool :=
  match request.contentType with
  | none => false
  | some media =>
    request.carriesBody && media != "" &&
      (request.bodyField == .content ||
        (request.bodyField == .json && media != "application/json" && !media.toList.contains '*'))

/-- The path with the names of arguments in braces. -/
def urlTemplate (request : RequestPlan) : String :=
  String.intercalate "/" (request.segments.map fun
    | .literal value => value
    | .parameter _ argument => s!"\x7b{argument}\x7d")

end RequestPlan

/-- Whether the function takes any arguments at all. -/
def Plan.takesParameters (plan : Plan) : Bool :=
  !plan.arguments.isEmpty || plan.acceptsBody

end ApiCompiler
