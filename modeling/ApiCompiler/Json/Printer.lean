import ApiCompiler.Misuse
import ApiCompiler.Value.Display

/-!
# Writing JSON

Values as JSON text, either compact or with one item a line. Keys that are numbers or truth values
become their JSON text. Characters outside ASCII stay as they are.
-/

namespace ApiCompiler.Json

/-- The decisions of a JSON text. -/
structure Format where
  /-- The step to the right of each level, where every item has its own line. -/
  indent : Option Nat
  /-- What stands between a key and its value. -/
  colon : List Char
  /-- Whether the undefined number and the infinities are written. -/
  undefinedNumbers : Bool
  /-- Whether values that JSON does not know are written as texts. -/
  othersAsText : Bool

/-- One item a line, pushed right by two a level. -/
def Format.indented : Format where
  indent := some 2
  colon := [':', ' ']
  undefinedNumbers := true
  othersAsText := true

/-- One line without blanks, of JSON values alone. -/
def Format.compact : Format where
  indent := none
  colon := [':']
  undefinedNumbers := false
  othersAsText := false

/-- One character inside a string. -/
def escapeCharacter (character : Char) : List Char :=
  if character = '"' || character = '\\' then ['\\', character]
  else if character = '\n' then ['\\', 'n']
  else if character = '\r' then ['\\', 'r']
  else if character = '\t' then ['\\', 't']
  else if character = '\x08' then ['\\', 'b']
  else if character = '\x0c' then ['\\', 'f']
  else if character.toNat ≤ 0x1F then '\\' :: 'u' :: Text.hexDigits 4 character.toNat
  else [character]

/-- A text as a string. -/
def writeString (text : List Char) : List Char :=
  '"' :: text.flatMap escapeCharacter ++ ['"']

private def writeFloat (format : Format) (number : Binary64) : Except Misuse (List Char) :=
  match number with
  | .finite .. => .ok (DecimalLayout.json.write number).toList
  | _ =>
    if format.undefinedNumbers then .ok (DecimalLayout.json.write number).toList
    else .error .badContent

private def writeTruth (value : Bool) : List Char :=
  (if value then "true" else "false").toList

private def writeWhole (value : Int) : Except Misuse (List Char) :=
  if Value.isShort value then .ok (Value.writeInt value) else .error .badContent

private def writeKey (format : Format) : Value → Except Misuse (List Char)
  | .str text => .ok (writeString text.toList)
  | .null => .ok (writeString "null".toList)
  | .bool value => .ok (writeString (writeTruth value))
  | .int value => (writeWhole value).map writeString
  | .float value => (writeFloat format value).map writeString
  | _ => .error .wrongKind

/-- The line break in front of an item of a level. -/
def Format.lineBreak (format : Format) (level : Nat) : List Char :=
  match format.indent with
  | none => []
  | some width => '\n' :: List.replicate (width * level) ' '

private def enclose (format : Format) (level : Nat) (opening closing : Char)
    (pieces : List (List Char)) : List Char :=
  match pieces with
  | [] => [opening, closing]
  | pieces =>
    opening :: Text.joinWith [','] (pieces.map (format.lineBreak (level + 1) ++ ·)) ++
      format.lineBreak level ++ [closing]

mutual

/-- The text of a value that stands on a level. -/
def write (format : Format) (level : Nat) : Value → Except Misuse (List Char)
  | .null => .ok "null".toList
  | .bool value => .ok (writeTruth value)
  | .int value => writeWhole value
  | .float value => writeFloat format value
  | .str text => .ok (writeString text.toList)
  | .list items => return enclose format level '[' ']' (← writeItems format (level + 1) items)
  | .tuple items => return enclose format level '[' ']' (← writeItems format (level + 1) items)
  | .map entries =>
    return enclose format level '\x7b' '\x7d' (← writeEntries format (level + 1) entries)
  | other =>
    if format.othersAsText then return writeString (← other.showable).display
    else .error .wrongKind

/-- The texts of a list's items. -/
def writeItems (format : Format) (level : Nat) : List Value → Except Misuse (List (List Char))
  | [] => .ok []
  | item :: items => do
    let text ← write format level item
    return text :: (← writeItems format level items)

/-- The texts of a mapping's entries. -/
def writeEntries (format : Format) (level : Nat) :
    List (Value × Value) → Except Misuse (List (List Char))
  | [] => .ok []
  | (key, value) :: rest => do
    let key ← writeKey format key
    let text ← write format level value
    return (key ++ format.colon ++ text) :: (← writeEntries format level rest)

end

/-- A value as a JSON text. -/
def print (format : Format) (value : Value) : Except Misuse String :=
  (write format 0 value).map String.ofList

end ApiCompiler.Json
