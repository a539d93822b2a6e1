import ApiCompiler.Misuse

/-!
# Tokens

The tokens of a YAML text. Block structure shows as tokens of its own, found from indentation.
-/

namespace ApiCompiler.Yaml

/-- Why a text gives no value. -/
inductive Fault where
  /-- The text is not YAML, or its structure cannot be built. -/
  | malformed
  /-- A scalar does not write a value of its kind. -/
  | misuse (cause : Misuse)
deriving Repr, DecidableEq

/-- A token; a fault stands where reading stopped. -/
inductive Token where
  | versionDirective (major : Nat)
  | tagDirective (handle lead : String)
  | otherDirective
  | documentStart
  | documentEnd
  | blockSequenceStart
  | blockMappingStart
  | blockEnd
  | flowSequenceStart
  | flowSequenceEnd
  | flowMappingStart
  | flowMappingEnd
  | blockEntry
  | flowEntry
  | key
  | value
  | alias (name : String)
  | anchor (name : String)
  | tag (handle : Option String) (suffix : String)
  | scalar (text : String) (plain : Bool)
  | streamEnd
  | fault (cause : Fault)
deriving Repr, DecidableEq

end ApiCompiler.Yaml
