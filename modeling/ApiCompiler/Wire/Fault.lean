import ApiCompiler.Host.Name
import ApiCompiler.Misuse

/-!
# Faults of messages

Why a request gives no message that could be sent.
-/

namespace ApiCompiler.Wire

/-- Why a request is not sent. -/
inductive Fault where
  | misuse (cause : Misuse)
  /-- An address that cannot be understood. -/
  | badAddress
  /-- The name of a host that stands for no name. -/
  | badHost (cause : Host.Fault)
  /-- A character that a header cannot carry. -/
  | badHeader
  /-- Bytes of a query that are no characters. -/
  | badQuery
  /-- A body that could only be sent piece by piece. -/
  | piecemealBody
deriving Repr, DecidableEq

/-- A result of work on values. -/
def Fault.lift {α : Type} (result : Except Misuse α) : Except Fault α :=
  result.mapError .misuse

/-- The fault of a value that does not fit its use. -/
def Fault.ofMisuse {α : Type} (cause : Misuse) : Except Fault α :=
  .error (.misuse cause)

end ApiCompiler.Wire
