import ApiCompiler.Charset.Wide
import ApiCompiler.Document.Fault
import ApiCompiler.Files.Fault
import ApiCompiler.Misuse
import ApiCompiler.Plan.Fault
import ApiCompiler.Settings.Fault
import ApiCompiler.Wire.Fault

/-!
# Failures

Why no client is made from a document, and how much of that is told: some failures are foreseen and
have words, the others are only counted as such.
-/

namespace ApiCompiler

/-- Why no client is made. -/
inductive Failure where
  | document (fault : Document.Fault)
  | plan (fault : Plan.Fault)
  /-- A part of the description has fields of the wrong shape. -/
  | shape (part : Part) (complaints : List Complaint)
  /-- A value that does not fit its use. -/
  | misuse (cause : Misuse)
  | files (fault : Files.Fault)
  | settings (fault : Settings.Fault)
  /-- A document's address is none that a request could be sent to. -/
  | wire (fault : Wire.Fault)
  /-- The text at an address is in a charset that does not read it. -/
  | charset (fault : Charset.Fault)
  /-- The user has no directory. -/
  | noHome
  /-- A module is to be checked, but no file is named that holds it. -/
  | nothingToCheck
deriving Repr

/-- A record, or the failure to read one. -/
def Checked.orFail {α : Type} (part : Part) : Checked α → Except Failure α
  | .fits value => .ok value
  | .flawed complaints => .error (.shape part complaints)

/-- How a run ends. -/
inductive Exit where
  | success
  | failure
  | usage
  | badDocument
  | pathMismatch
  | outdated
deriving Repr, DecidableEq

/-- The number that stands for an end. -/
def Exit.code : Exit → Nat
  | .success => 0
  | .failure => 1
  | .usage => 2
  | .badDocument => 7
  | .pathMismatch => 8
  | .outdated => 9

namespace Failure

/-- The words for a foreseen failure. -/
def message? : Failure → Option String
  | .document fault => some fault.message
  | .plan fault => some fault.message
  | .settings fault => some fault.message
  | .nothingToCheck => some "--check needs an output file (-o PATH)"
  | .shape .. => none
  | .misuse _ => none
  | .files _ => none
  | .wire _ => none
  | .charset _ => none
  | .noHome => none

/-- What is recorded of a failure. -/
def account (failure : Failure) : String :=
  let words := match failure with
    | .shape _ complaints => s!"{complaints.length} fields of the wrong shape"
    | .misuse cause => cause.words
    | .files fault => fault.message
    | .wire _ => "an address that nothing can be sent to"
    | .charset fault => fault.words
    | .noHome => "a user without a directory"
    | failure => failure.message?.getD ""
  words ++ "\n"

/-- How a run ends that fails. -/
def exit : Failure → Exit
  | .document _ => .badDocument
  | .plan (.pathMismatch ..) => .pathMismatch
  | .plan _ => .badDocument
  | .nothingToCheck => .usage
  | .settings _ => .failure
  | .shape .. => .failure
  | .misuse _ => .failure
  | .files _ => .failure
  | .wire _ => .failure
  | .charset _ => .failure
  | .noHome => .failure

end Failure

end ApiCompiler
