import ApiCompiler.Json.Fault
import ApiCompiler.Text.Spare
import ApiCompiler.Value

/-!
# Reading JSON

Reads a JSON text to a value. The undefined number and the infinities may be written; whole numbers
stay apart from others; a key that is repeated keeps its first place and takes its last value.
-/

namespace ApiCompiler.Json

open Text

/-- What a reader gives: a result and the text behind it. -/
abbrev Reading (α : Type) := Except Stop (α × List Char)

/-- Reading stops in front of a text. -/
def stop {α : Type} (cause : Cause) (rest : List Char) : Except Stop α :=
  .error (.malformed cause rest.length)

/-- The characters allowed between tokens. -/
def isSpace (character : Char) : Bool :=
  character == ' ' || character == '\t' || character == '\n' || character == '\r'

def skipSpace (text : List Char) : List Char :=
  text.dropWhile isSpace

/-- The number that four hexadecimal digits write. -/
def code? (first second third fourth : Char) : Option Nat := do
  let first ← baseDigit? 16 first
  let second ← baseDigit? 16 second
  let third ← baseDigit? 16 third
  let fourth ← baseDigit? 16 fourth
  return digitsValue 16 [first, second, third, fourth]

def isHighSurrogate (code : Nat) : Bool :=
  0xD800 ≤ code && code ≤ 0xDBFF

def isLowSurrogate (code : Nat) : Bool :=
  0xDC00 ≤ code && code ≤ 0xDFFF

/-- The character of two surrogates. -/
def joinSurrogates (high low : Nat) : Char :=
  Char.ofNat (0x10000 + (high - 0xD800) * 0x400 + (low - 0xDC00))

/-- The character of a code, or what stands for half a surrogate pair. -/
def characterOf [Spares] (code : Nat) : Char :=
  if isHighSurrogate code || isLowSurrogate code then Spares.half code else Char.ofNat code

/-- The character that a backslash and a letter write. -/
def escape? (letter : Char) : Option Char :=
  if letter = '"' || letter = '\\' || letter = '/' then some letter
  else if letter = 'b' then some '\x08'
  else if letter = 'f' then some '\x0c'
  else if letter = 'n' then some '\n'
  else if letter = 'r' then some '\r'
  else if letter = 't' then some '\t'
  else none

/-- Puts a character in front of the text that was read. -/
def prepend (character : Char) : Reading (List Char) → Reading (List Char)
  | .ok (text, rest) => .ok (character :: text, rest)
  | .error fault => .error fault

/-- The rest of a string behind its opening quote, of which the text left there is known. -/
def readString [Spares] (opening : Nat) : List Char → Reading (List Char)
  | [] => .error (.malformed .unclosedString opening)
  | '"' :: rest => .ok ([], rest)
  | '\\' :: [] => .error (.malformed .unclosedString opening)
  | '\\' :: 'u' :: first :: second :: third :: fourth :: next :: rest =>
    match code? first second third fourth with
    | none => .error (.malformed .badCodeEscape (rest.length + 6))
    | some high =>
      if isHighSurrogate high && next == '\\' then
        match rest with
        | 'u' :: first :: second :: third :: fourth :: after :: rest =>
          match code? first second third fourth with
          | none => .error (.malformed .badCodeEscape (rest.length + 6))
          | some low =>
            if isLowSurrogate low then
              prepend (joinSurrogates high low) (readString opening (after :: rest))
            else
              prepend (characterOf high)
                (readString opening ('\\' :: 'u' :: first :: second :: third ::
                  fourth :: after :: rest))
        | rest => prepend (characterOf high) (readString opening (next :: rest))
      else prepend (characterOf high) (readString opening (next :: rest))
  | '\\' :: 'u' :: rest => .error (.malformed .badCodeEscape (rest.length + 1))
  | '\\' :: letter :: rest =>
    match escape? letter with
    | some character => prepend character (readString opening rest)
    | none => .error (.malformed .badEscape (rest.length + 2))
  | character :: rest =>
    if character.toNat ≤ 0x1F then .error (.malformed .controlCharacter (rest.length + 1))
    else prepend character (readString opening rest)
termination_by text => text.length

/-- The values of decimal digits. -/
def digitValues (digits : List Char) : List Nat :=
  digits.map fun digit => digit.toNat - 0x30

/-- The whole part of a number: a zero alone, or digits that start with no zero. -/
def takeWhole : List Char → Option (List Char × List Char)
  | '0' :: rest => some (['0'], rest)
  | text =>
    if (text.head?.any isDigit) then some (text.takeWhile isDigit, text.dropWhile isDigit) else none

/-- The digits behind a point, if there are any. -/
def takeFraction : List Char → List Char × List Char
  | '.' :: rest =>
    if rest.head?.any isDigit then (rest.takeWhile isDigit, rest.dropWhile isDigit)
    else ([], '.' :: rest)
  | text => ([], text)

/-- The power of ten behind a number, if digits follow its mark. -/
def takeExponent : List Char → Option (Int × List Char)
  | mark :: rest =>
    if mark = 'e' || mark = 'E' then
      let (negative, rest) := takeSign rest
      if rest.head?.any isDigit then
        let size : Int := digitsValue 10 (digitValues (rest.takeWhile isDigit))
        some (if negative then -size else size, rest.dropWhile isDigit)
      else none
    else none
  | [] => none

/-- A number at the front of a text, behind its sign. -/
def readUnsigned (text : List Char) (negative : Bool) (unsigned : List Char) : Reading Value :=
  match takeWhole unsigned with
  | none => stop .noValue text
  | some (whole, rest) =>
    let (fraction, rest) := takeFraction rest
    let coefficient := digitsValue 10 (digitValues (whole ++ fraction))
    match takeExponent rest with
    | some (power, rest) =>
      .ok (.float (.ofDecimal negative coefficient (power - fraction.length)), rest)
    | none =>
      if fraction.isEmpty then
        if numeralLimit < whole.length then .error (.longNumeral whole.length)
        else .ok (.int (if negative then -(coefficient : Int) else coefficient), rest)
      else .ok (.float (.ofDecimal negative coefficient (-fraction.length)), rest)

/-- A number at the front of a text. -/
def readNumber (text : List Char) : Reading Value :=
  match text with
  | '-' :: unsigned => readUnsigned text true unsigned
  | unsigned => readUnsigned text false unsigned

/-- The words that stand for values. -/
def namedValues : List (String × Value) := [
  ("null", .null), ("true", .bool true), ("false", .bool false), ("NaN", .float .nan),
  ("Infinity", .float (.infinite false)), ("-Infinity", .float (.infinite true))]

/-- A named value at the front of a text. -/
def takeNamed (text : List Char) : Option (Value × List Char) :=
  namedValues.findSome? fun (name, value) =>
    if name.toList.isPrefixOf text then some (value, text.drop name.length) else none

mutual

/-- A value at the front of a text; the fuel bounds how deep values nest and how long they are. -/
def readValue [Spares] : Nat → List Char → Reading Value
  | 0, text => stop .noValue text
  | fuel + 1, text =>
    match text with
    | '"' :: rest =>
      match readString text.length rest with
      | .ok (content, rest) => .ok (.str (String.ofList content), rest)
      | .error fault => .error fault
    | '\x7b' :: rest =>
      match skipSpace rest with
      | '\x7d' :: rest => .ok (.map [], rest)
      | rest =>
        match readEntries fuel rest with
        | .ok (entries, rest) => .ok (.map (Value.ofEntries entries), rest)
        | .error fault => .error fault
    | '[' :: rest =>
      match skipSpace rest with
      | ']' :: rest => .ok (.list [], rest)
      | rest =>
        match readItems fuel rest with
        | .ok (items, rest) => .ok (.list items, rest)
        | .error fault => .error fault
    | text =>
      match takeNamed text with
      | some (value, rest) => .ok (value, rest)
      | none => readNumber text

/-- The items of an array and its closing bracket. -/
def readItems [Spares] : Nat → List Char → Reading (List Value)
  | 0, text => stop .noValue text
  | fuel + 1, text =>
    match readValue fuel text with
    | .error fault => .error fault
    | .ok (item, rest) =>
      match skipSpace rest with
      | ']' :: rest => .ok ([item], rest)
      | ',' :: rest =>
        match readItems fuel (skipSpace rest) with
        | .ok (items, rest) => .ok (item :: items, rest)
        | .error fault => .error fault
      | rest => stop .noComma rest

/-- The entries of an object and its closing brace. -/
def readEntries [Spares] : Nat → List Char → Reading (List (Value × Value))
  | 0, text => stop .noKey text
  | fuel + 1, text =>
    match text with
    | '"' :: rest =>
      match readString text.length rest with
      | .error fault => .error fault
      | .ok (key, rest) =>
        match skipSpace rest with
        | ':' :: rest =>
          match readValue fuel (skipSpace rest) with
          | .error fault => .error fault
          | .ok (value, rest) =>
            let entry := (Value.str (String.ofList key), value)
            match skipSpace rest with
            | '\x7d' :: rest => .ok ([entry], rest)
            | ',' :: rest =>
              match readEntries fuel (skipSpace rest) with
              | .ok (entries, rest) => .ok (entry :: entries, rest)
              | .error fault => .error fault
            | rest => stop .noComma rest
        | rest => stop .noColon rest
    | rest => stop .noKey rest

end

/-- Reads a whole text as far as its reader comes. -/
def readText [Spares] (text : List Char) : Except Stop Value :=
  match text with
  | '\uFEFF' :: _ => stop .byteOrderMark text
  | text =>
    match readValue (2 * text.length + 1) (skipSpace text) with
    | .error fault => .error fault
    | .ok (value, rest) =>
      match skipSpace rest with
      | [] => .ok value
      | rest => stop .extraData rest

/-- The value that a text writes. -/
def read [Spares] (text : String) : Except Fault Value :=
  (readText text.toList).mapError (Stop.fault text.toList)

end ApiCompiler.Json
