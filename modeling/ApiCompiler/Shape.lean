import ApiCompiler.Value

/-!
# Shapes of records

Reading the fields of records from values. All fields are read, and all that do not fit are
reported, each with its place.
-/

namespace ApiCompiler

/-- What is wrong with a field. -/
inductive Flaw where
  | missing
  | notText
  | notUnicode
  | notTruth
  | unreadableTruth
  | notRecord
  | notList
  /-- None of the values of an enumeration. -/
  | notListed
  /-- None of the texts that are allowed. -/
  | notAllowed
deriving Repr, DecidableEq

/-- A flaw, and the names and indices that lead to it. -/
structure Complaint where
  place : List String
  flaw : Flaw
deriving Repr, DecidableEq

/-- A value of the right shape, or all complaints about it. -/
inductive Checked (α : Type) where
  | fits (value : α)
  | flawed (complaints : List Complaint)
deriving Repr

namespace Checked

variable {α β : Type}

/-- A flaw of the value itself. -/
def flaw (kind : Flaw) : Checked α :=
  .flawed [⟨[], kind⟩]

def map (change : α → β) : Checked α → Checked β
  | .fits value => .fits (change value)
  | .flawed complaints => .flawed complaints

/-- Applies a checked function; the complaints of both sides are kept in order. -/
def apply : Checked (α → β) → Checked α → Checked β
  | .fits change, .fits value => .fits (change value)
  | .fits _, .flawed complaints => .flawed complaints
  | .flawed complaints, .fits _ => .flawed complaints
  | .flawed complaints, .flawed others => .flawed (complaints ++ others)

instance : Functor Checked where
  map := map

instance : Seq Checked where
  seq change value := apply change (value ())

/-- Moves the complaints below a name. -/
def below (name : String) : Checked α → Checked α
  | .fits value => .fits value
  | .flawed complaints =>
    .flawed (complaints.map fun complaint => { complaint with place := name :: complaint.place })

end Checked

namespace Shape

variable {α : Type}

/-- A text, or bytes that write one. -/
def text : Value → Checked String
  | .str text => .fits text
  | .bytes content =>
    match String.fromUTF8? ⟨content.toArray⟩ with
    | some text => .fits text
    | none => .flaw .notUnicode
  | _ => .flaw .notText

/-- Nothing, or what has another shape. -/
def optional (read : Value → Checked α) : Value → Checked (Option α)
  | .null => .fits none
  | value => (read value).map some

private def truthNames : List (String × Bool) := [
  ("0", false), ("off", false), ("f", false), ("false", false), ("n", false), ("no", false),
  ("1", true), ("on", true), ("t", true), ("true", true), ("y", true), ("yes", true)]

private def namedTruth (word : String) : Checked Bool :=
  match truthNames.find? (·.1 == word.map Char.toLower) with
  | some (_, truth) => .fits truth
  | none => .flaw .unreadableTruth

private def numericTruth (value : Int) : Checked Bool :=
  if value = 0 then .fits false else if value = 1 then .fits true else .flaw .unreadableTruth

/-- One more than the greatest whole number of 64 bits. -/
private def wordBound : Int := 0x8000000000000000

/-- A truth value, or zero, one or a word for it; a number beyond 64 bits is not even misread. -/
def truth : Value → Checked Bool
  | .bool value => .fits value
  | .int value =>
    if -wordBound ≤ value && value < wordBound then numericTruth value else .flaw .notTruth
  | .float value =>
    match value.toInt? with
    | some whole =>
      if -wordBound < whole && whole < wordBound then numericTruth whole else .flaw .notTruth
    | none => .flaw .notTruth
  | .str word => namedTruth word
  | .bytes content =>
    match String.fromUTF8? ⟨content.toArray⟩ with
    | some word => namedTruth word
    | none => .flaw .unreadableTruth
  | _ => .flaw .notTruth

def itemsFrom (read : Value → Checked α) : Nat → List Value → Checked (List α)
  | _, [] => .fits []
  | index, item :: items =>
    List.cons <$> (read item).below (toString index) <*> itemsFrom read (index + 1) items

/-- A list of one shape. -/
def list (read : Value → Checked α) : Value → Checked (List α)
  | .list items => itemsFrom read 0 items
  | _ => .flaw .notList

/-- A record that is read from its entries. -/
def record (read : List (Value × Value) → Checked α) : Value → Checked α
  | .map entries => read entries
  | _ => .flaw .notRecord

/-- A field that has to be there. -/
def field (name : String) (read : Value → Checked α) (entries : List (Value × Value)) : Checked α :=
  match Value.field? entries name with
  | some value => (read value).below name
  | none => (Checked.flaw .missing).below name

/-- A field with a value for where it is absent. -/
def fieldOr (absent : α) (name : String) (read : Value → Checked α)
    (entries : List (Value × Value)) : Checked α :=
  match Value.field? entries name with
  | some value => (read value).below name
  | none => .fits absent

/-- A field that may be absent or nothing. -/
def optionalField (name : String) (read : Value → Checked α) (entries : List (Value × Value)) :
    Checked (Option α) :=
  fieldOr none name (optional read) entries

end Shape

end ApiCompiler
