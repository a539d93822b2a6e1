/-!
# Misuse of values

What goes wrong when a value is not of the kind, or not of the form, that an operation needs.
-/

namespace ApiCompiler

/-- The ways in which a value does not fit its use. -/
inductive Misuse where
  /-- Fields, entries or text operations are asked of a value that has none. -/
  | noFields
  /-- The operation does not work on values of this kind. -/
  | wrongKind
  /-- The kind fits, but the content has no meaning to the operation. -/
  | badContent
  /-- A key that a mapping does not hold. -/
  | absentKey
  /-- A place that a sequence does not have. -/
  | absentItem
  /-- A number that the operation cannot hold. -/
  | outOfRange
  /-- A value that is a part of itself. -/
  | endless
deriving Repr, DecidableEq

/-- The words for a misuse. -/
def Misuse.words : Misuse → String
  | .noFields => "a value without fields"
  | .wrongKind => "a value of the wrong kind"
  | .badContent => "a value without meaning here"
  | .absentKey => "a key that is not there"
  | .absentItem => "a place that is not there"
  | .outOfRange => "a number out of range"
  | .endless => "a value inside of itself"

end ApiCompiler
