import ApiCompiler.Failure
import ApiCompiler.Text.Digit
import ApiCompiler.Text.Lines

/-!
# Pointers

References into the same document: the way from its root by keys and places, each behind a slash. A
slash inside a key is written `~1`, a tilde `~0`.
-/

namespace ApiCompiler.Document

open Text

/-- Undoes the first of the two escapes. -/
def restoreSlashes : List Char → List Char
  | '~' :: '1' :: rest => '/' :: restoreSlashes rest
  | character :: rest => character :: restoreSlashes rest
  | [] => []

/-- Undoes the second. -/
def restoreTildes : List Char → List Char
  | '~' :: '0' :: rest => '~' :: restoreTildes rest
  | character :: rest => character :: restoreTildes rest
  | [] => []

/-- The key or place that a piece of a pointer writes. -/
def tokenOf (piece : List Char) : String :=
  String.ofList (restoreTildes (restoreSlashes piece))

/-- The tokens of a reference into the same document. -/
def tokens? (reference : String) : Option (List String) :=
  match reference.toList with
  | '#' :: '/' :: pointer => some ((splitAt '/' pointer).map tokenOf)
  | _ => none

/-- The item at a place of a list; a place below zero counts from the end. -/
def itemAt? (items : List Value) (place : Int) : Option Value :=
  if 0 ≤ place then items[place.toNat]?
  else if items.length < place.natAbs then none
  else items[items.length - place.natAbs]?

/-- One step of a pointer. -/
def step (reference : String) (node : Value) (token : String) : Except Fault Value :=
  match node with
  | .map entries =>
    match Value.field? entries token with
    | some value => .ok value
    | none => .error (.absentKey reference token)
  | .list items =>
    match (integer? 10 token.toList).bind (itemAt? items) with
    | some item => .ok item
    | none => .error (.badIndex reference token)
  | value => .error (.deadEnd reference value.kind)

/-- The node of a document that a reference points at. -/
def target (root : Value) (reference : String) : Except Fault Value :=
  match tokens? reference with
  | none => .error (.externalReference reference)
  | some tokens => tokens.foldlM (step reference) root

end ApiCompiler.Document
