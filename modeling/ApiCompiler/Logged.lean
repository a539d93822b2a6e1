import ApiCompiler.Action
import ApiCompiler.Description
import ApiCompiler.Failure

/-!
# Work with notices

Work that may fail and that leaves notices on the way. The notices never bear on the result, and
those left before a failure stay.
-/

namespace ApiCompiler

/-- How much a notice matters. -/
inductive Level where
  | debug
  | info
  | warning
  | error
  | critical
deriving Repr, DecidableEq

/-- What is noted on the way from a document to a client. -/
inductive Notice where
  | readingInput
  | readingFile (path : String)
  | fetching (address : String)
  | newerFormat (version : String)
  | skippedParameter (location name : Value)
  | planned (operationId : String) (method : Method) (url : String) (arguments : Nat)
  | assembled (title version : String) (operations : Nat)
deriving Repr

namespace Notice

def level : Notice → Level
  | .newerFormat _ => .warning
  | .skippedParameter .. => .warning
  | .assembled .. => .info
  | _ => .debug

/-- The channel that a notice is recorded on. -/
def channel : Notice → String
  | .readingInput => programName ++ ".parser.loader"
  | .readingFile _ => programName ++ ".parser.loader"
  | .fetching _ => programName ++ ".parser.loader"
  | .newerFormat _ => programName ++ ".parser.loader"
  | .skippedParameter .. => programName ++ ".parser.extractor"
  | .planned .. => programName ++ ".generator.operation"
  | .assembled .. => programName ++ ".generator.assembler"

def message : Notice → String
  | .readingInput => "Reading OpenAPI document from stdin"
  | .readingFile path => s!"Reading OpenAPI document from {path}"
  | .fetching address => s!"Fetching OpenAPI document from {address}"
  | .newerFormat version => s!"OpenAPI {version} is newer than 3.1; compiling anyway"
  | .skippedParameter location name =>
    s!"Skipping {location.displayed} parameter {String.ofList name.literal}: location not supported"
  | .planned operationId method url arguments =>
    s!"Compiled {operationId}: {method.verb} {url} ({arguments} arguments)"
  | .assembled title version operations =>
    s!"Assembled client for {title} {version} with {operations} operations"

end Notice

/-- A result or failure, and the notices left before it. -/
structure Logged (α : Type) where
  notices : List Notice
  result : Except Failure α

namespace Logged

variable {α β : Type}

/-- Work that leaves no notice. -/
def quiet (result : Except Failure α) : Logged α :=
  ⟨[], result⟩

/-- Leaves a notice. -/
def note (notice : Notice) : Logged Unit :=
  ⟨[notice], .ok ()⟩

def fail (failure : Failure) : Logged α :=
  quiet (.error failure)

protected def bind (work : Logged α) (next : α → Logged β) : Logged β :=
  match work.result with
  | .error failure => ⟨work.notices, .error failure⟩
  | .ok value => ⟨work.notices ++ (next value).notices, (next value).result⟩

instance : Monad Logged where
  pure value := quiet (.ok value)
  bind := Logged.bind

instance : MonadLift (Except Failure) Logged where
  monadLift := quiet

@[simp] theorem result_pure (value : α) : (pure value : Logged α).result = .ok value := rfl

@[simp] theorem result_bind (work : Logged α) (next : α → Logged β) :
    (work >>= next).result = work.result >>= fun value => (next value).result := by
  show (Logged.bind work next).result = _
  unfold Logged.bind
  cases work.result <;> rfl

end Logged

end ApiCompiler
