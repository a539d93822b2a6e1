import ApiCompiler.Description

/-!
# Faults of plans

Why the operations of a description give no functions, and the words for it.
-/

namespace ApiCompiler.Plan

/-- What an argument is for. -/
inductive Owner where
  | body
  | parameter (location : Location) (name : String)
deriving Repr, DecidableEq

def Owner.describe : Owner → String
  | .body => "the request body"
  | .parameter location name => s!"{location.name} parameter '{name}'"

/-- In what a path and its parameters disagree. -/
inductive PathFault where
  | embedded (segment : String)
  | undeclared (name : String)
  | repeated (name : String)
  | notRequired (name : String)
  | unbound (names : List String)
deriving Repr, DecidableEq

private def placeholder (name : String) : String :=
  s!"placeholder '\x7b{name}\x7d'"

def PathFault.message : PathFault → String
  | .embedded segment => s!"placeholder embedded in segment '{segment}'"
  | .undeclared name => s!"{placeholder name} has no path parameter"
  | .repeated name => s!"{placeholder name} appears more than once"
  | .notRequired name => s!"path parameter '{name}' must be required"
  | .unbound names => "path parameters without a placeholder: " ++ String.intercalate ", " names

/-- What is wrong with an operation, or with several together. -/
inductive Fault where
  | noOperationId (method : Method) (path : String)
  | noServer
  | sharedArgument (operationId : String) (later earlier : Owner) (argument : String)
  | pathMismatch (operationId path : String) (fault : PathFault)
  | repeatedId (operationId : String)
  | sharedFunction (earlier later name : String)
deriving Repr, DecidableEq

/-- The words for a fault. -/
def Fault.message : Fault → String
  | .noOperationId method path => s!"{method.verb} {path} has no operationId"
  | .noServer => "Cannot compile operations without a server URL"
  | .sharedArgument operationId later earlier argument =>
    s!"{operationId}: {later.describe} and {earlier.describe} " ++
      s!"both map to the argument name '{argument}'"
  | .pathMismatch operationId path fault => s!"{operationId} ({path}): {fault.message}"
  | .repeatedId operationId => s!"Duplicate operationId: {operationId}"
  | .sharedFunction earlier later name =>
    s!"Operations {earlier} and {later} both generate the function name '{name}'"

end ApiCompiler.Plan
