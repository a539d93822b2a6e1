import ApiCompiler.Action
import ApiCompiler.Failure

/-!
# Work

Actions that may fail, and what they are made of.
-/

namespace ApiCompiler

/-- An action that ends with a result or a failure. -/
abbrev Work := ExceptT Failure Action

namespace Work

variable {α : Type}

/-- Asks one question. -/
def query (query : Query) : Work query.Answer :=
  ExceptT.lift (Action.query query)

/-- Steps on files, whose faults are failures. -/
def onFiles (action : Action (Except Files.Fault α)) : Work α := do
  match ← ExceptT.lift action with
  | .ok value => return value
  | .error fault => throw (.files fault)

/-- A result that is there without asking. -/
def ofResult (result : Except Failure α) : Work α :=
  ExceptT.mk (pure result)

end Work

end ApiCompiler
