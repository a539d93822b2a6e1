import ApiCompiler.Logged
import ApiCompiler.Plan.Operation

/-!
# Plans of descriptions

Plans the functions of all operations, in their order. No two of them share an identifier or a name.
-/

namespace ApiCompiler.Plan

/-- Refuses a plan whose identifier or function name an earlier one has. -/
def distinctFrom (earlier : List Plan) (plan : Plan) : Except Fault Unit :=
  if earlier.any (·.operationId == plan.operationId) then .error (.repeatedId plan.operationId)
  else match earlier.find? (·.functionName == plan.functionName) with
    | some other =>
      .error (.sharedFunction other.operationId plan.operationId plan.functionName)
    | none => .ok ()

def orFail {α : Type} (result : Except Fault α) : Except Failure α :=
  result.mapError .plan

def addPlan (description : Description) (versions : Versions) (earlier : List Plan)
    (operation : Operation) : Logged (List Plan) := do
  let plan ← orFail (ofOperation operation description.info description.servers versions)
  Logged.note (.planned plan.operationId plan.request.method plan.request.urlTemplate
    plan.arguments.length)
  orFail (distinctFrom earlier plan)
  return earlier ++ [plan]

/-- The plans of all operations of a description. -/
def ofDescription (description : Description) (versions : Versions) : Logged (List Plan) :=
  description.operations.foldlM (addPlan description versions) []

end ApiCompiler.Plan
