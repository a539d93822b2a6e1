import ApiCompiler.Plan
import ApiCompiler.Plan.Fault
import ApiCompiler.Text.Lines
import ApiCompiler.Text.Placeholder

/-!
# Pieces of paths

Cuts the path of an operation into pieces. A piece that is a name in braces is filled with the path
parameter of that name; every path parameter fills exactly one piece.
-/

namespace ApiCompiler.Plan

/-- Parameters with the arguments that they are called by. -/
abbrev Named := List (Parameter × String)

/-- The name that a piece of a path stands for; a line feed may follow it. -/
def placeholder? (piece : List Char) : Option String :=
  match Text.pieces piece with
  | [.group (first :: name)] => some (String.ofList (first :: name))
  | [.group (first :: name), .single '\n'] => some (String.ofList (first :: name))
  | _ => none

/-- Whether a pair of braces stands anywhere in a piece of a path. -/
def hasPlaceholder (piece : List Char) : Bool :=
  (Text.pieces piece).any fun
    | .group _ => true
    | .single _ => false

/-- The names of the parameters that fill segments. -/
def boundNames (segments : List Segment) : List String :=
  segments.filterMap fun
    | .parameter name _ => some name
    | .literal _ => none

/-- The segment of a piece that stands behind others. -/
def segmentOf (parameters : Named) (earlier : List Segment) (piece : List Char) :
    Except PathFault Segment :=
  match placeholder? piece with
  | none =>
    let text := String.ofList piece
    if hasPlaceholder piece then .error (.embedded text) else .ok (.literal text)
  | some name =>
    match parameters.find? (·.1.name == name) with
    | none => .error (.undeclared name)
    | some (parameter, argument) =>
      if (boundNames earlier).contains name then .error (.repeated name)
      else if !parameter.required then .error (.notRequired name)
      else .ok (.parameter name argument)

/-- The pieces of a path that are not empty. -/
def pathPieces (path : String) : List (List Char) :=
  (Text.splitAt '/' path.toList).filter (!·.isEmpty)

/-- The segments of a path whose parameters are known. -/
def segmentsOf (parameters : Named) (path : String) : Except PathFault (List Segment) := do
  let segments ← (pathPieces path).foldlM
    (fun earlier piece => return earlier ++ [← segmentOf parameters earlier piece]) []
  let bound := boundNames segments
  let unbound := (parameters.map (·.1.name)).filter (!bound.contains ·)
  if unbound.isEmpty then return segments
  else throw (.unbound (unbound.mergeSort (· ≤ ·)))

end ApiCompiler.Plan
