import ApiCompiler.Json.Reader
import ApiCompiler.Yaml.Cursor
import ApiCompiler.Yaml.Token

/-!
# Lexemes

The tokens that stand on their own: directives, anchors, tags and scalars in their five styles. Each
is read from a cursor that stands on its first character.
-/

namespace ApiCompiler.Yaml

open Text (Spares)

def refuse {α : Type} : Except Fault α :=
  .error .malformed

/-- The characters of the names of anchors, handles and directives. -/
def isNameCharacter (character : Char) : Bool :=
  ('0' ≤ character && character ≤ '9') || ('A' ≤ character && character ≤ 'Z') ||
    ('a' ≤ character && character ≤ 'z') || character == '-' || character == '_'

def oneOf (characters : String) (character : Char) : Bool :=
  characters.toList.contains character

def hexValue? (digits : List Char) : Option Nat := do
  let values ← digits.mapM (Text.baseDigit? 16)
  return Text.digitsValue 16 values

private def takeByte (cursor : Cursor) : Except Fault (UInt8 × Cursor) :=
  match hexValue? (cursor.rest.take 2) with
  | some value => if cursor.rest.length < 2 then refuse else .ok (value.toUInt8, cursor.advance 2)
  | none => refuse

private def takeBytes : Nat → Cursor → Except Fault (List UInt8 × Cursor)
  | 0, _ => refuse
  | fuel + 1, cursor =>
    if cursor.peek == some '%' then do
      let (byte, cursor) ← takeByte cursor.step
      let (bytes, cursor) ← takeBytes fuel cursor
      return (byte :: bytes, cursor)
    else .ok ([], cursor)

private def isAddressCharacter (character : Char) : Bool :=
  isNameCharacter character || oneOf ";/?:@&=+$,.!~*'()[]" character

private def takeAddressPieces : Nat → Cursor → Except Fault (List Char × Cursor)
  | 0, _ => refuse
  | fuel + 1, cursor =>
    let (plain, cursor) := cursor.span isAddressCharacter
    if cursor.peek == some '%' then do
      let (bytes, cursor) ← takeBytes (cursor.rest.length + 1) cursor
      match String.fromUTF8? ⟨bytes.toArray⟩ with
      | none => refuse
      | some text =>
        let (rest, cursor) ← takeAddressPieces fuel cursor
        return (plain ++ text.toList ++ rest, cursor)
    else .ok (plain, cursor)

/-- An address with its escapes undone; it is not empty. -/
def takeAddress (cursor : Cursor) : Except Fault (String × Cursor) := do
  let begun := cursor.peek == some '%' || cursor.peek.any isAddressCharacter
  if begun then
    let (text, cursor) ← takeAddressPieces (cursor.rest.length + 1) cursor
    return (String.ofList text, cursor)
  else refuse

/-- A handle between exclamation marks, or the single mark before a space. -/
def takeHandle (cursor : Cursor) : Except Fault (String × Cursor) :=
  if cursor.peek == some '!' then
    let (name, after) := cursor.step.span isNameCharacter
    if after.peek == some '!' then .ok (String.ofList ('!' :: name ++ ['!']), after.step)
    else if name.isEmpty && after.peek == some ' ' then .ok ("!", after)
    else refuse
  else refuse

private def hasSecondMark (cursor : Cursor) : Bool :=
  ((cursor.rest.drop 1).takeWhile fun character => !endsWord (some character)).contains '!'

/-- A tag: an address in angles, the single mark, or a handle and a suffix. -/
def takeTag (cursor : Cursor) : Except Fault (Token × Cursor) := do
  let (token, cursor) ← show Except Fault (Token × Cursor) from
    if cursor.peekAt 1 == some '<' then do
      let (suffix, cursor) ← takeAddress (cursor.advance 2)
      if cursor.peek == some '>' then return (.tag none suffix, cursor.step) else refuse
    else if endsToken (cursor.peekAt 1) then return (.tag none "!", cursor.step)
    else if hasSecondMark cursor then do
      let (handle, cursor) ← takeHandle cursor
      let (suffix, cursor) ← takeAddress cursor
      return (.tag (some handle) suffix, cursor)
    else do
      let (suffix, cursor) ← takeAddress cursor.step
      return (.tag (some "!") suffix, cursor)
  if endsWord cursor.peek then return (token, cursor) else refuse

private def takeNumber (cursor : Cursor) : Except Fault (Nat × Cursor) :=
  let (digits, after) := cursor.span Text.isDigit
  if digits.isEmpty then refuse
  else .ok (Text.digitsValue 10 (digits.map fun digit => digit.toNat - 0x30), after)

private def takeVersion (cursor : Cursor) : Except Fault (Token × Cursor) := do
  let (major, cursor) ← takeNumber cursor.skipSpaces
  if cursor.peek == some '.' then
    let (_, cursor) ← takeNumber cursor.step
    if endsWord cursor.peek then return (.versionDirective major, cursor) else refuse
  else refuse

private def takeTagDirective (cursor : Cursor) : Except Fault (Token × Cursor) := do
  let (handle, cursor) ← takeHandle cursor.skipSpaces
  if cursor.peek == some ' ' then
    let (lead, cursor) ← takeAddress cursor.skipSpaces
    if endsWord cursor.peek then return (.tagDirective handle lead, cursor) else refuse
  else refuse

/-- The end of a line behind spaces and a comment. -/
private def finishLine (cursor : Cursor) : Except Fault Cursor :=
  let cursor := cursor.skipSpaces.skipComment
  if endsLine cursor.peek then .ok cursor.takeBreak.2 else refuse

/-- A directive and its line. -/
def takeDirective (cursor : Cursor) : Except Fault (Token × Cursor) := do
  let (name, after) := cursor.step.span isNameCharacter
  if name.isEmpty || !endsWord after.peek then refuse
  else
    let (token, after) ← show Except Fault (Token × Cursor) from
      if name == "YAML".toList then takeVersion after
      else if name == "TAG".toList then takeTagDirective after
      else return (.otherDirective, after.skipLine)
    return (token, ← finishLine after)

/-- The name of an anchor or alias behind its mark. -/
def takeAnchorName (cursor : Cursor) : Except Fault (String × Cursor) :=
  let (name, after) := cursor.step.span isNameCharacter
  if name.isEmpty then refuse
  else if endsToken after.peek || after.peek.any (oneOf "?:,]\x7d%@`") then
    .ok (String.ofList name, after)
  else refuse

private def isSign (character : Char) : Bool :=
  character == '+' || character == '-'

private def takeChomping (cursor : Cursor) : Option Bool × Cursor :=
  match cursor.peek with
  | some '+' => (some true, cursor.step)
  | some '-' => (some false, cursor.step)
  | _ => (none, cursor)

private def takeIncrement (cursor : Cursor) : Except Fault (Option Nat × Cursor) :=
  match cursor.peek with
  | some digit =>
    if Text.isDigit digit then
      if digit == '0' then refuse else .ok (some (digit.toNat - 0x30), cursor.step)
    else .ok (none, cursor)
  | none => .ok (none, cursor)

/-- The chomping and indentation marks of a block scalar, in either order. -/
private def takeBlockHeader (cursor : Cursor) :
    Except Fault ((Option Bool × Option Nat) × Cursor) := do
  let (header, cursor) ← show Except Fault ((Option Bool × Option Nat) × Cursor) from do
    if cursor.peek.any isSign then
      let (chomping, cursor) := takeChomping cursor
      let (increment, cursor) ← takeIncrement cursor
      return ((chomping, increment), cursor)
    else
      let (increment, cursor) ← takeIncrement cursor
      if increment.isSome then
        let (chomping, cursor) := takeChomping cursor
        return ((chomping, increment), cursor)
      else return ((none, none), cursor)
  if endsWord cursor.peek then return (header, ← finishLine cursor) else refuse

/-- Leading empty lines, and the deepest column that their spaces reach. -/
private def takeLeadingBreaks : Nat → Nat → Cursor → List (List Char) × Nat × Cursor
  | 0, deepest, cursor => ([], deepest, cursor)
  | fuel + 1, deepest, cursor =>
    if cursor.peek == some ' ' then
      let cursor := cursor.step
      takeLeadingBreaks fuel (max deepest cursor.column) cursor
    else if cursor.peek.any isBreak then
      let (lineBreak, cursor) := cursor.takeBreak
      let (breaks, deepest, cursor) := takeLeadingBreaks fuel deepest cursor
      (lineBreak :: breaks, deepest, cursor)
    else ([], deepest, cursor)

private def skipIndent : Nat → Nat → Cursor → Cursor
  | 0, _, cursor => cursor
  | fuel + 1, indent, cursor =>
    if cursor.column < indent && cursor.peek == some ' ' then skipIndent fuel indent cursor.step
    else cursor

/-- Empty lines and the indentation of the line behind them. -/
private def takeBlockBreaks : Nat → Nat → Cursor → List (List Char) × Cursor
  | 0, _, cursor => ([], cursor)
  | fuel + 1, indent, cursor =>
    let cursor := skipIndent (indent + 1) indent cursor
    if cursor.peek.any isBreak then
      let (lineBreak, cursor) := cursor.takeBreak
      let (breaks, cursor) := takeBlockBreaks fuel indent cursor
      (lineBreak :: breaks, cursor)
    else ([], cursor)

private def isInsideBlock (indent : Nat) (cursor : Cursor) : Bool :=
  cursor.column == indent && cursor.peek.isSome

private def isLineSpace (character : Option Char) : Bool :=
  character == some ' ' || character == some '\t'

/-- The lines of a block scalar with the breaks between them; last come the pending breaks. -/
private def takeBlockLines (folded : Bool) (indent : Nat) :
    Nat → List (List Char) → List Char → Cursor →
      List Char × List Char × List (List Char) × Cursor
  | 0, breaks, lineBreak, cursor => ([], lineBreak, breaks, cursor)
  | fuel + 1, breaks, lineBreak, cursor =>
    if isInsideBlock indent cursor then
      let flush := !isLineSpace cursor.peek
      let (line, after) := cursor.span fun character => !isBreak character
      let (lineBreak, after) := after.takeBreak
      let (nextBreaks, after) := takeBlockBreaks (after.rest.length + 1) indent after
      let joint :=
        if isInsideBlock indent after then
          if folded && lineBreak == ['\n'] && flush && !isLineSpace after.peek then
            if nextBreaks.isEmpty then [' '] else []
          else lineBreak
        else []
      let (text, lastBreak, pending, cursor) :=
        takeBlockLines folded indent fuel nextBreaks lineBreak after
      (breaks.flatten ++ line ++ joint ++ text, lastBreak, pending, cursor)
    else ([], lineBreak, breaks, cursor)

/-- A literal or folded block scalar inside a block of the given indentation. -/
def takeBlockScalar (folded : Bool) (outer : Int) (cursor : Cursor) :
    Except Fault (Token × Cursor) := do
  let ((chomping, increment), cursor) ← takeBlockHeader cursor.step
  let least := (max (outer + 1) 1).toNat
  let fuel := cursor.rest.length + 1
  let (indent, breaks, cursor) := match increment with
    | none =>
      let (breaks, deepest, cursor) := takeLeadingBreaks fuel 0 cursor
      (max least deepest, breaks, cursor)
    | some increment =>
      let indent := least + increment - 1
      let (breaks, cursor) := takeBlockBreaks fuel indent cursor
      (indent, breaks, cursor)
  let (text, lastBreak, pending, cursor) := takeBlockLines folded indent fuel breaks [] cursor
  let ending := if chomping == some false then [] else lastBreak
  let trailing := if chomping == some true then pending.flatten else []
  return (.scalar (String.ofList (text ++ ending ++ trailing)) false, cursor)

def escapes : List (Char × Char) := [
  ('0', '\x00'), ('a', '\x07'), ('b', '\x08'), ('t', '\t'), ('\t', '\t'),
    ('n', '\n'), ('v', '\x0b'),
  ('f', '\x0c'), ('r', '\r'), ('e', '\x1b'), (' ', ' '), ('"', '"'), ('\\', '\\'), ('/', '/'),
  ('N', '\x85'), ('_', '\xa0'), ('L', '\u2028'), ('P', '\u2029')]

def codeWidth? (letter : Char) : Option Nat :=
  if letter = 'x' then some 2 else if letter = 'u' then some 4
  else if letter = 'U' then some 8 else none

/-- A code that no character has; one of more than 31 bits is not even held. -/
private def refuseCode {α : Type} (code : Nat) : Except Fault α :=
  .error (.misuse (if 0x7FFFFFFF < code then .outOfRange else .badContent))

/-- The code that a numeric escape writes. -/
def takeCode (width : Nat) (cursor : Cursor) : Except Fault (Nat × Cursor) :=
  let digits := cursor.rest.take width
  if digits.length < width then refuse
  else match hexValue? digits with
    | none => refuse
    | some code =>
      if 0x10FFFF < code then refuseCode code else .ok (code, cursor.advance width)

/-- The character of a code. The codes of two surrogates stay halves, even side by side. -/
def takeCodedCharacter [Spares] (width : Nat) (cursor : Cursor) : Except Fault (Char × Cursor) := do
  let (code, cursor) ← takeCode width cursor
  return (Json.characterOf code, cursor)

/-- Blank lines between the lines of a quoted scalar. -/
private def takeQuotedBreaks : Nat → Cursor → Except Fault (List (List Char) × Cursor)
  | 0, _ => refuse
  | fuel + 1, cursor =>
    if cursor.atSeparator then refuse
    else
      let cursor := cursor.skip fun character => character == ' ' || character == '\t'
      if cursor.peek.any isBreak then do
        let (lineBreak, cursor) := cursor.takeBreak
        let (breaks, cursor) ← takeQuotedBreaks fuel cursor
        return (lineBreak :: breaks, cursor)
      else .ok ([], cursor)

def isQuotedPlain (character : Char) : Bool :=
  !(character == '\'' || character == '"' || character == '\\' || character == ' ' ||
    character == '\t' || isBreak character)

/-- The text of a quoted scalar up to the next blank or its closing quote. -/
def takeQuotedWord [Spares] (double : Bool) : Nat → Cursor → Except Fault (List Char × Cursor)
  | 0, _ => refuse
  | fuel + 1, cursor =>
    let (plain, cursor) := cursor.span isQuotedPlain
    let continuing (text : List Char) (cursor : Cursor) : Except Fault (List Char × Cursor) := do
      let (rest, cursor) ← takeQuotedWord double fuel cursor
      return (plain ++ text ++ rest, cursor)
    match cursor.rest with
    | '\'' :: next =>
      if double then continuing ['\''] cursor.step
      else if next.head? == some '\'' then continuing ['\''] (cursor.advance 2)
      else .ok (plain, cursor)
    | '"' :: _ => if double then .ok (plain, cursor) else continuing ['"'] cursor.step
    | '\\' :: next =>
      if !double then continuing ['\\'] cursor.step
      else
        match next with
        | [] => refuse
        | letter :: _ =>
          match escapes.find? (·.1 == letter), codeWidth? letter with
          | some (_, character), _ => continuing [character] (cursor.advance 2)
          | none, some width => do
            let (character, cursor) ← takeCodedCharacter width (cursor.advance 2)
            continuing [character] cursor
          | none, none =>
            if isBreak letter then do
              let (breaks, cursor) ← takeQuotedBreaks fuel cursor.step.takeBreak.2
              continuing breaks.flatten cursor
            else refuse
    | _ => .ok (plain, cursor)

/-- The blanks inside a quoted scalar; lines are folded into spaces. -/
def takeQuotedSpace (cursor : Cursor) : Except Fault (List Char × Cursor) := do
  let (spaces, after) := cursor.span fun character => character == ' ' || character == '\t'
  match after.peek with
  | none => refuse
  | some character =>
    if isBreak character then
      let (lineBreak, after) := after.takeBreak
      let (breaks, after) ← takeQuotedBreaks (after.rest.length + 1) after
      let joint := if lineBreak != ['\n'] then lineBreak else if breaks.isEmpty then [' '] else []
      return (joint ++ breaks.flatten, after)
    else return (spaces, after)

def takeQuotedRest [Spares] (double : Bool) : Nat → Cursor → Except Fault (List Char × Cursor)
  | 0, _ => refuse
  | fuel + 1, cursor => do
    let (word, cursor) ← takeQuotedWord double (cursor.rest.length + 1) cursor
    if cursor.peek == some (if double then '"' else '\'') then return (word, cursor.step)
    else
      let (space, cursor) ← takeQuotedSpace cursor
      let (rest, cursor) ← takeQuotedRest double fuel cursor
      return (word ++ space ++ rest, cursor)

/-- A scalar between single or double quotes. -/
def takeQuotedScalar [Spares] (double : Bool) (cursor : Cursor) :
    Except Fault (Token × Cursor) := do
  let (text, after) ← takeQuotedRest double (cursor.rest.length + 1) cursor.step
  return (.scalar (String.ofList text) false, after)

def endsPlain (inFlow : Bool) (character : Char) (next : Option Char) : Bool :=
  endsToken (some character) ||
    (character == ':' && (endsToken next || (inFlow && next.any (oneOf ",[]\x7b\x7d")))) ||
    (inFlow && oneOf ",?[]\x7b\x7d" character)

def plainLength (inFlow : Bool) : List Char → Nat
  | [] => 0
  | character :: rest =>
    if endsPlain inFlow character rest.head? then 0 else plainLength inFlow rest + 1

/-- Empty lines between the lines of a plain scalar; `none` in front of a document separator. -/
def takePlainBreaks : Nat → Cursor → Option (List (List Char)) × Cursor
  | 0, cursor => (some [], cursor)
  | fuel + 1, cursor =>
    let cursor := cursor.skipSpaces
    if cursor.peek.any isBreak then
      let (lineBreak, cursor) := cursor.takeBreak
      if cursor.atSeparator then (none, cursor)
      else
        let (breaks, cursor) := takePlainBreaks fuel cursor
        (breaks.map (lineBreak :: ·), cursor)
    else (some [], cursor)

/-- What stands between two words of a plain scalar, and whether a line ended there. -/
def takePlainSpace (cursor : Cursor) : List Char × Bool × Cursor :=
  let (spaces, after) := cursor.span (· == ' ')
  if after.peek.any isBreak then
    let (lineBreak, after) := after.takeBreak
    if after.atSeparator then ([], true, after)
    else
      match takePlainBreaks (after.rest.length + 1) after with
      | (none, after) => ([], true, after)
      | (some breaks, after) =>
        let joint := if lineBreak != ['\n'] then lineBreak else if breaks.isEmpty then [' '] else []
        (joint ++ breaks.flatten, true, after)
  else (spaces, false, after)

def takePlainWords (inFlow : Bool) (indent : Int) :
    Nat → List Char → Bool → Cursor → List Char × Bool × Cursor
  | 0, _, endedLine, cursor => ([], endedLine, cursor)
  | fuel + 1, space, endedLine, cursor =>
    let length := if cursor.peek == some '#' then 0 else plainLength inFlow cursor.rest
    if length == 0 then ([], endedLine, cursor)
    else
      let word := cursor.rest.take length
      let (next, endedLine, after) := takePlainSpace (cursor.advance length)
      if next.isEmpty || after.peek == some '#' || (!inFlow && (after.column : Int) < indent) then
        (space ++ word, endedLine, after)
      else
        let (rest, endedLine, after) := takePlainWords inFlow indent fuel next endedLine after
        (space ++ word ++ rest, endedLine, after)

/-- A plain scalar, and whether a line ended behind its last word. -/
def takePlainScalar (inFlow : Bool) (outer : Int) (cursor : Cursor) : Token × Bool × Cursor :=
  let (text, endedLine, after) :=
    takePlainWords inFlow (outer + 1) (cursor.rest.length + 1) [] false cursor
  (.scalar (String.ofList text) true, endedLine, after)

end ApiCompiler.Yaml
