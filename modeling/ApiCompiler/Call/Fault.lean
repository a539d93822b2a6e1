import ApiCompiler.Misuse
import ApiCompiler.Value.Display

/-!
# Failed calls

Why a call reaches no dispatch, and the words for it.
-/

namespace ApiCompiler.Call

/-- Why a call fails. -/
inductive Fault where
  /-- A required argument is absent or nothing. -/
  | missing (argument : Value)
  | misuse (cause : Misuse)
deriving Repr

/-- The words for a missing argument. -/
def missingMessage (argument : Value) : String :=
  s!"Missing required parameter: {argument.displayed}. Value: None"

/-- The fault of a missing argument, if its name can be told. -/
def missing (name : Value) : Fault :=
  if name.isShowable then .missing name else .misuse .badContent

/-- The value of a required argument. -/
def requireArgument (arguments : Value) (name : Value) : Except Fault Value :=
  match arguments with
  | .map entries =>
    if !name.isKey then .error (.misuse .wrongKind)
    else match Value.lookup? entries name with
      | none => .error (missing name)
      | some .null => .error (missing name)
      | some value => .ok value
  | _ => .error (.misuse .noFields)

end ApiCompiler.Call
