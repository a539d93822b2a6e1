import ApiCompiler.Console.Session
import ApiCompiler.Description.Extraction
import ApiCompiler.Document.Source
import ApiCompiler.Plan.All
import ApiCompiler.Plan.Record

/-!
# Inspecting documents

Shows the plans of a document's operations, in full or one line each.
-/

namespace ApiCompiler.CommandLine

/-- What each column of the table shows. -/
def tableHeaders : List String :=
  ["Operation", "Function", "Method", "URL", "Arguments", "Required"]

/-- Names with commas between, or a dash where there is nothing to show. -/
def listed (names : List String) : String :=
  let list := String.intercalate ", " names
  if list.isEmpty then "-" else list

/-- The row of a plan. -/
def tableRow (plan : Plan) : List String :=
  let body := if plan.acceptsBody then [bodyArgument] else []
  [plan.operationId, plan.functionName, plan.request.method.verb, "/" ++ plan.request.urlTemplate,
    listed (plan.arguments ++ body), listed plan.request.required]

/-- Shows plans in the format of the console. -/
def showPlans (session : Session) (plans : List Plan) : Work Unit :=
  if session.console.format = .json then session.put (.json (.list (plans.map Plan.record)))
  else if plans.isEmpty then session.put (.remark .info "No operations defined in this spec.")
  else session.put (.table tableHeaders (plans.map tableRow))

/-- What a format shows of a plan. -/
def shownOf (format : Format) (plan : Plan) : Value :=
  if format = .json then plan.record else .list ((tableRow plan).map .str)

/-- Whether there are bytes to write what a format shows of the plans of a document. -/
def Spelled (document : Document) (format : Format) (plans : List Plan) : Prop :=
  ∀ plan ∈ plans, document.writes (shownOf format plan)

instance (document : Document) (format : Format) (plans : List Plan) :
    Decidable (Spelled document format plans) :=
  inferInstanceAs (Decidable (∀ plan ∈ plans, _))

/-- Shows the plans of a document. Of a table without a spelling, only what stands above the first
row that has none is shown. -/
def showSpelled (session : Session) (document : Document) (plans : List Plan) : Work Unit :=
  let format := session.console.format
  if Spelled document format plans then showPlans session plans
  else if format = .json then throw (.files .halved)
  else do
    let above := plans.takeWhile fun plan => document.writes (shownOf format plan)
    session.put (.table tableHeaders (above.map tableRow))
    throw (.files .halved)

/-- Shows the plans of a document. -/
def inspect (session : Session) (source : String) (versions : Versions) : Work Exit := do
  let document ← session.report (← ExceptT.lift (Document.load source))
  let description ← session.report (Description.ofDocument document)
  let plans ← session.report (Plan.ofDescription description versions)
  showSpelled session document plans
  return .success

end ApiCompiler.CommandLine
