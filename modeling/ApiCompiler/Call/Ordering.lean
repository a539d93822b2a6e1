import ApiCompiler.Misuse
import ApiCompiler.Sorting.Run
import ApiCompiler.Value.Order

/-!
# Canonical order

The order in which the values of an ordered query parameter are sent: rising, and values that
compare equal keep their order.
-/

namespace ApiCompiler.Call

/-- Whether a value goes before another. -/
def goesBefore? (left right : Value) : Option Bool :=
  (left.compare? right).map (· < 0)

/-- Minus one, zero or one for two values that compare. -/
def orderedCompare (left right : Value) : Except Misuse Value :=
  match left.compare? right with
  | some sign => .ok (.int sign)
  | none => .error .wrongKind

def sorted (items : List Value) : Except Misuse Value :=
  match Sorting.sortItems goesBefore? items with
  | some ordered => .ok (.list ordered)
  | none => .error .wrongKind

/-- The values of a list, tuple or set in canonical order; anything else as it is. -/
def sortOrdered : Value → Except Misuse Value
  | .list items => sorted items
  | .tuple items => sorted items
  | .set members => sorted members
  | value => .ok value

/--
Canonical order inside a module with functions of given names. Kinds are told apart one after
another, lists and tuples before sets; a function that has the name of a kind hides it.
-/
def sortOrderedAmong (functions : List String) (value : Value) : Except Misuse Value :=
  let hidden := match value with
    | .list _ => false
    | .tuple _ => false
    | .set _ => functions.contains "set"
    | _ => functions.contains "set" || functions.contains "frozenset"
  if hidden then .error .wrongKind else sortOrdered value

end ApiCompiler.Call
