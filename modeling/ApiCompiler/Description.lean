/-!
# API descriptions

What a document says about an API: its name and version, its servers, and its operations with their
parameters and bodies, in the order of the document.
-/

namespace ApiCompiler

/-- The methods of operations. -/
inductive Method where
  | get
  | post
  | put
  | patch
  | delete
  | head
  | options
  | trace
deriving Repr, DecidableEq

namespace Method

/-- The methods under the names that they have in a document. -/
def named : List (String × Method) := [
  ("get", .get), ("post", .post), ("put", .put), ("patch", .patch), ("delete", .delete),
  ("head", .head), ("options", .options), ("trace", .trace)]

def ofName? (name : String) : Option Method :=
  (named.find? (·.1 == name)).map (·.2)

def name : Method → String
  | .get => "get"
  | .post => "post"
  | .put => "put"
  | .patch => "patch"
  | .delete => "delete"
  | .head => "head"
  | .options => "options"
  | .trace => "trace"

/-- The name as requests give it. -/
def verb : Method → String
  | .get => "GET"
  | .post => "POST"
  | .put => "PUT"
  | .patch => "PATCH"
  | .delete => "DELETE"
  | .head => "HEAD"
  | .options => "OPTIONS"
  | .trace => "TRACE"

end Method

/-- Where a parameter is sent. -/
inductive Location where
  | path
  | query
  | header
deriving Repr, DecidableEq

namespace Location

/-- The locations under the names that they have in a document. -/
def named : List (String × Location) := [("path", .path), ("query", .query), ("header", .header)]

def ofName? (name : String) : Option Location :=
  (named.find? (·.1 == name)).map (·.2)

def name : Location → String
  | .path => "path"
  | .query => "query"
  | .header => "header"

end Location

/-- A parameter of an operation. -/
structure Parameter where
  name : String
  location : Location
  required : Bool
  /-- Whether its values are sent in canonical order. -/
  ordered : Bool
  description : Option String
  schemaTypes : List String
deriving Repr, DecidableEq

/-- The body of an operation's requests. -/
structure Body where
  required : Bool
  description : Option String
  contentTypes : List String
deriving Repr, DecidableEq

/-- A method on a path. -/
structure Operation where
  path : String
  method : Method
  operationId : Option String
  summary : Option String
  description : Option String
  parameters : List Parameter
  body : Option Body
deriving Repr, DecidableEq

/-- What the API is called and which version of it is described. -/
structure Info where
  title : String
  version : String
  description : Option String
deriving Repr, DecidableEq

/-- An address that serves the API. -/
structure Server where
  url : String
  description : Option String
deriving Repr, DecidableEq

/-- What a document says about an API. -/
structure Description where
  info : Info
  servers : List Server
  operations : List Operation
  /-- The version of the document's own format. -/
  formatVersion : String
deriving Repr, DecidableEq

/-- The records of a description. -/
inductive Part where
  | info
  | server
  | operation
  | parameter
  | body
  | description
deriving Repr, DecidableEq

end ApiCompiler
