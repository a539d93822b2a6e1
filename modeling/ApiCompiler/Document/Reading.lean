import ApiCompiler.Failure
import ApiCompiler.Json.Reader
import ApiCompiler.Text.Spare
import ApiCompiler.Yaml.Content

/-!
# Reading documents

A text is of known or unknown format. JSON is tried first unless YAML is expected; where the format
is unknown, what is no JSON may still be YAML. The document has to be a mapping.

Where a document holds what no text could, it is read with characters that its text does not write.
What is made of the document is then spelled without them.
-/

namespace ApiCompiler

/-- A document that was read. -/
structure Document where
  root : Value
  /-- The row of the characters that stand for what is none, if there may be some. -/
  spare : Option Nat
deriving Repr

namespace Document

open Text (Spares)

/-- What is known about the format of a text. -/
inductive Expected where
  | json
  | yaml
  | unknown
deriving Repr, DecidableEq

/-- Only mappings are documents. -/
def requireMapping (value : Value) : Except Failure Value :=
  match value with
  | .map entries => .ok (.map entries)
  | value => .error (.document (.notMapping value))

def readYaml [Spares] (json : Option Json.Fault) (text : String) : Except Failure Value :=
  match Yaml.read text with
  | .ok value => requireMapping value
  | .error .malformed => .error (.document (.unreadable json))
  | .error (.misuse cause) => .error (.misuse cause)

def readJson [Spares] (text : String) (orElse : Json.Fault → Except Failure Value) :
    Except Failure Value :=
  match Json.read text with
  | .ok value => requireMapping value
  | .error (.longNumeral _) => .error (.misuse .badContent)
  | .error fault => orElse fault

/-- The value that a text writes. -/
def read [Spares] (expected : Expected) (text : String) : Except Failure Value :=
  match expected with
  | .yaml => readYaml none text
  | .json => readJson text fun fault => .error (.document (.notJson fault))
  | .unknown => readJson text fun fault => readYaml (some fault) text

/-- The code of a character beyond the first plane that an escape writes here. -/
def escapedCode? : List Char → Option Nat
  | '\\' :: 'U' :: digits => Yaml.hexValue? (digits.take 8)
  | '\\' :: 'u' :: digits => do
    let high ← Yaml.hexValue? (digits.take 4)
    let low ← Yaml.hexValue? ((digits.drop 6).take 4)
    if Json.isHighSurrogate high && Json.isLowSurrogate low then
      return (Json.joinSurrogates high low).toNat
    else none
  | _ => none

/-- The codes of the characters that a text writes at most, wherever an escape may begin. -/
def codesOf : List Char → List Nat
  | [] => []
  | character :: rest =>
    character.toNat :: ((escapedCode? (character :: rest)).toList ++ codesOf rest)

mutual

/-- Whether a character of a kind is in one of the texts of a value. -/
def holds (kind : Char → Bool) : Value → Bool
  | .str text => text.toList.any kind
  | .list items => anyHolds kind items
  | .tuple items => anyHolds kind items
  | .set members => anyHolds kind members
  | .map entries => anyEntryHolds kind entries
  | _ => false

def anyHolds (kind : Char → Bool) : List Value → Bool
  | [] => false
  | item :: items => holds kind item || anyHolds kind items

def anyEntryHolds (kind : Char → Bool) : List (Value × Value) → Bool
  | [] => false
  | (key, value) :: rest => holds kind key || holds kind value || anyEntryHolds kind rest

end

/-- The document that a text writes. Where the replacement character is in it, other characters may
stand apart for what it replaces. -/
def ofText (expected : Expected) (text : String) : Except Failure Document := do
  let root ← read expected text
  if holds (· = Text.Utf8.replacement) root then
    match Spares.freeStart? (codesOf text.toList) with
    | some first => return ⟨← @read (.row first) expected text, some first⟩
    | none => return ⟨root, none⟩
  else return ⟨root, none⟩

/-- A document's failure, or the failure of one that is a part of itself. -/
def endless (document : Document) : Failure → Failure
  | .document (.externalReference reference) =>
    if document.spare.any fun first => reference == String.singleton (Spares.row first).loop then
      .misuse .endless
    else .document (.externalReference reference)
  | failure => failure

/-- Whether the texts of a value that was made of a document have bytes to write them: nothing in
them stands for half a surrogate pair. -/
def writes (document : Document) (value : Value) : Bool :=
  document.spare.all fun first =>
    !holds (fun character => (Spares.halfOf? first character.toNat).isSome) value

/-- The spelling of a text that was made of a document. -/
def spelled (document : Document) (text : String) : Except Files.Fault String :=
  match document.spare with
  | none => .ok text
  | some first =>
    match Spares.respell first 0 text.toList with
    | some characters => .ok (String.ofList characters)
    | none => .error .halved

end Document

end ApiCompiler
