import ApiCompiler.Yaml.Lexeme

/-!
# The tokens of a text

Cuts a YAML text into tokens. Indentation opens and closes blocks. A mapping key on one line needs
no mark of its own: its place is remembered until a colon follows, and then marked.
-/

namespace ApiCompiler.Yaml

open Text (Spares)

/-- A place where a key may have begun. -/
structure PossibleKey where
  /-- The number of tokens in front of it. -/
  place : Nat
  /-- Whether nothing else could stand there. -/
  required : Bool
  index : Nat
  line : Nat
  column : Nat
deriving Repr

/-- How far a text is cut into tokens. -/
structure Cutting where
  cursor : Cursor
  /-- The tokens so far, the last one first. -/
  tokens : List Token
  /-- The number of flow collections that are open. -/
  depth : Nat
  /-- The column of the innermost block, which is −1 outside of all. -/
  indent : Int
  /-- The columns of the blocks around it. -/
  outerIndents : List Int
  /-- Whether a key may begin here. -/
  allowsKey : Bool
  /-- The possible keys of each depth. -/
  possibleKeys : List (Nat × PossibleKey)
deriving Repr

namespace Cutting

/-- Nothing is cut yet. -/
def start (text : List Char) : Cutting :=
  ⟨.start text, [], 0, -1, [], true, []⟩

def refuse {α : Type} : Except Fault α :=
  .error .malformed

def push (token : Token) (cutting : Cutting) : Cutting :=
  { cutting with tokens := token :: cutting.tokens }

/-- Puts a token behind the first tokens of a given number. -/
def insertAt (place : Nat) (token : Token) (cutting : Cutting) : Cutting :=
  let later := cutting.tokens.length - place
  { cutting with tokens := cutting.tokens.take later ++ token :: cutting.tokens.drop later }

def inFlow (cutting : Cutting) : Bool :=
  cutting.depth != 0

/-- A key that was left behind on another line, or too far back. -/
def isStale (cursor : Cursor) (key : PossibleKey) : Bool :=
  key.line != cursor.line || 1024 < cursor.index - key.index

def dropStaleKeys (cutting : Cutting) : Except Fault Cutting :=
  let (stale, kept) := cutting.possibleKeys.partition fun entry => isStale cutting.cursor entry.2
  if stale.any (·.2.required) then refuse else .ok { cutting with possibleKeys := kept }

def possibleKey? (cutting : Cutting) : Option PossibleKey :=
  (cutting.possibleKeys.find? (·.1 == cutting.depth)).map (·.2)

def forgetKey (cutting : Cutting) : Cutting :=
  { cutting with possibleKeys := cutting.possibleKeys.filter (·.1 != cutting.depth) }

/-- Gives up the possible key of this depth. -/
def dropKey (cutting : Cutting) : Except Fault Cutting :=
  if cutting.possibleKey?.any (·.required) then refuse else .ok cutting.forgetKey

/-- Remembers that a key may begin here. -/
def noteKey (cutting : Cutting) : Except Fault Cutting := do
  if cutting.allowsKey then
    let cursor := cutting.cursor
    let required := !cutting.inFlow && cutting.indent == cursor.column
    let key := ⟨cutting.tokens.length, required, cursor.index, cursor.line, cursor.column⟩
    let cutting ← cutting.dropKey
    return { cutting with possibleKeys := (cutting.depth, key) :: cutting.possibleKeys }
  else return cutting

def closeBlocks (column : Int) (indent : Int) :
    List Int → List Token → Int × List Int × List Token
  | outer :: outers, tokens =>
    if column < indent then closeBlocks column outer outers (.blockEnd :: tokens)
    else (indent, outer :: outers, tokens)
  | [], tokens => (indent, [], tokens)

/-- Closes the blocks that are deeper than a column. -/
def unwind (column : Int) (cutting : Cutting) : Cutting :=
  if cutting.inFlow then cutting
  else
    let (indent, outerIndents, tokens) :=
      closeBlocks column cutting.indent cutting.outerIndents cutting.tokens
    { cutting with indent, outerIndents, tokens }

/-- Opens a block at a column that is deeper than all open ones. -/
def openBlock (column place : Nat) (token : Token) (cutting : Cutting) : Cutting :=
  if cutting.inFlow || column ≤ cutting.indent then cutting
  else insertAt place token
    { cutting with indent := column, outerIndents := cutting.indent :: cutting.outerIndents }

def openBlockHere (token : Token) (cutting : Cutting) : Cutting :=
  cutting.openBlock cutting.cursor.column cutting.tokens.length token

/-- Passes the characters of a mark and adds its token. -/
def takeMark (width : Nat) (token : Token) (cutting : Cutting) : Cutting :=
  push token { cutting with cursor := cutting.cursor.advance width }

def allowKey (allowed : Bool) (cutting : Cutting) : Cutting :=
  { cutting with allowsKey := allowed }

def takeStreamEnd (cutting : Cutting) : Except Fault Cutting := do
  return push .streamEnd (← (cutting.unwind (-1)).dropKey)

def takeSeparator (token : Token) (cutting : Cutting) : Except Fault Cutting := do
  return ((← (cutting.unwind (-1)).dropKey).allowKey false).takeMark 3 token

def takeFlowStart (token : Token) (cutting : Cutting) : Except Fault Cutting := do
  let cutting ← cutting.noteKey
  return ({ cutting with depth := cutting.depth + 1 }.allowKey true).takeMark 1 token

def takeFlowEnd (token : Token) (cutting : Cutting) : Except Fault Cutting := do
  let cutting ← cutting.dropKey
  if cutting.inFlow then
    return ({ cutting with depth := cutting.depth - 1 }.allowKey false).takeMark 1 token
  else refuse

def takeFlowEntry (cutting : Cutting) : Except Fault Cutting := do
  return ((← cutting.dropKey).allowKey true).takeMark 1 .flowEntry

def takeBlockEntry (cutting : Cutting) : Except Fault Cutting := do
  if cutting.inFlow || cutting.allowsKey then
    let cutting := cutting.openBlockHere .blockSequenceStart
    return ((← cutting.dropKey).allowKey true).takeMark 1 .blockEntry
  else refuse

def takeKey (cutting : Cutting) : Except Fault Cutting := do
  if cutting.inFlow || cutting.allowsKey then
    let cutting := cutting.openBlockHere .blockMappingStart
    return ((← cutting.dropKey).allowKey !cutting.inFlow).takeMark 1 .key
  else refuse

/-- A colon; the possible key in front of it becomes a key. -/
def takeValue (cutting : Cutting) : Except Fault Cutting := do
  match cutting.possibleKey? with
  | some key =>
    let cutting := cutting.forgetKey.insertAt key.place .key
    return ((cutting.openBlock key.column key.place .blockMappingStart).allowKey false).takeMark 1
      .value
  | none =>
    if cutting.inFlow || cutting.allowsKey then
      let cutting := cutting.openBlockHere .blockMappingStart
      return ((← cutting.dropKey).allowKey !cutting.inFlow).takeMark 1 .value
    else refuse

def takeLexeme (read : Cursor → Except Fault (Token × Cursor)) (cutting : Cutting) :
    Except Fault Cutting := do
  let (token, cursor) ← read cutting.cursor
  return push token { cutting with cursor }

/-- A lexeme that may begin a key. -/
def takeNoted (read : Cursor → Except Fault (Token × Cursor)) (cutting : Cutting) :
    Except Fault Cutting := do
  ((← cutting.noteKey).allowKey false).takeLexeme read

def takeNamed (token : String → Token) (cutting : Cutting) : Except Fault Cutting :=
  cutting.takeNoted fun cursor => do
    let (name, cursor) ← takeAnchorName cursor
    return (token name, cursor)

def takeDirectiveLine (cutting : Cutting) : Except Fault Cutting := do
  ((← (cutting.unwind (-1)).dropKey).allowKey false).takeLexeme takeDirective

def takeBlockText (folded : Bool) (cutting : Cutting) : Except Fault Cutting := do
  ((← cutting.dropKey).allowKey true).takeLexeme (takeBlockScalar folded cutting.indent)

def takePlain (cutting : Cutting) : Except Fault Cutting := do
  let cutting ← cutting.noteKey
  let (token, endedLine, cursor) := takePlainScalar cutting.inFlow cutting.indent cutting.cursor
  return push token ({ cutting with cursor }.allowKey endedLine)

def isIndicator (character : Char) : Bool :=
  "-?:,[]\x7b\x7d#&*!|>'\"%@`".toList.contains character

/-- Whether a plain scalar begins here. -/
def beginsPlain (cutting : Cutting) (character : Char) : Bool :=
  !(endsToken (some character) || isIndicator character) ||
    (!endsToken (cutting.cursor.peekAt 1) &&
      (character == '-' || (!cutting.inFlow && (character == '?' || character == ':'))))

def passBlank : Nat → Cutting → Cutting
  | 0, cutting => cutting
  | fuel + 1, cutting =>
    let cursor := cutting.cursor.skipSpaces.skipComment
    if cursor.peek.any isBreak then
      passBlank fuel { cutting with
        cursor := cursor.takeBreak.2, allowsKey := cutting.allowsKey || !cutting.inFlow }
    else { cutting with cursor }

/-- Passes blanks, comments and line breaks; outside of flow a key may begin on a new line. -/
def toNextToken (cutting : Cutting) : Cutting :=
  let cursor := cutting.cursor
  let atMark := cursor.index == 0 && cursor.peek == some byteOrderMark
  passBlank (cursor.rest.length + 1) { cutting with cursor :=
    if atMark then cursor.step else cursor }

/-- Takes the token that begins here, by its first character. -/
def takeToken [Spares] (cutting : Cutting) (character : Char) : Except Fault Cutting :=
  let cursor := cutting.cursor
  let standsAlone := cutting.inFlow || endsToken (cursor.peekAt 1)
  if character == '%' && cursor.column == 0 then cutting.takeDirectiveLine
  else if cursor.column == 0 && cursor.atMarks '-' then cutting.takeSeparator .documentStart
  else if cursor.column == 0 && cursor.atMarks '.' then cutting.takeSeparator .documentEnd
  else if character == '[' then cutting.takeFlowStart .flowSequenceStart
  else if character == '\x7b' then cutting.takeFlowStart .flowMappingStart
  else if character == ']' then cutting.takeFlowEnd .flowSequenceEnd
  else if character == '\x7d' then cutting.takeFlowEnd .flowMappingEnd
  else if character == ',' then cutting.takeFlowEntry
  else if character == '-' && endsToken (cursor.peekAt 1) then cutting.takeBlockEntry
  else if character == '?' && standsAlone then cutting.takeKey
  else if character == ':' && standsAlone then cutting.takeValue
  else if character == '*' then cutting.takeNamed .alias
  else if character == '&' then cutting.takeNamed .anchor
  else if character == '!' then cutting.takeNoted takeTag
  else if character == '|' && !cutting.inFlow then cutting.takeBlockText false
  else if character == '>' && !cutting.inFlow then cutting.takeBlockText true
  else if character == '\'' then cutting.takeNoted (takeQuotedScalar false)
  else if character == '"' then cutting.takeNoted (takeQuotedScalar true)
  else if cutting.beginsPlain character then cutting.takePlain
  else refuse

/-- Takes the next token. -/
def next [Spares] (cutting : Cutting) : Except Fault Cutting := do
  let cutting ← cutting.toNextToken.dropStaleKeys
  let cutting := cutting.unwind cutting.cursor.column
  match cutting.cursor.peek with
  | none => cutting.takeStreamEnd
  | some character => cutting.takeToken character

def isDone (cutting : Cutting) : Bool :=
  cutting.tokens.head? == some .streamEnd

/--
The tokens up to a fault. What may still turn out to be a key is not settled before what follows it
is read, so the fault stands in its place.
-/
def upTo (cause : Fault) (cutting : Cutting) : List Token :=
  let unsettled := (cutting.possibleKeys.filter fun entry => !isStale cutting.cursor entry.2).map
    (·.2.place)
  cutting.tokens.reverse.take (unsettled.foldl min cutting.tokens.length) ++ [.fault cause]

/-- Takes all tokens; where one cannot be taken, its fault stands last. -/
def all [Spares] : Nat → Cutting → List Token
  | 0, cutting => cutting.upTo .malformed
  | fuel + 1, cutting =>
    match cutting.next with
    | .error cause => cutting.upTo cause
    | .ok cutting => if cutting.isDone then cutting.tokens.reverse else all fuel cutting

end Cutting

/-- The characters that a text may hold. -/
def isAllowed (character : Char) : Bool :=
  let code := character.toNat
  code == 0x09 || code == 0x0A || code == 0x0D || (0x20 ≤ code && code ≤ 0x7E) || code == 0x85 ||
    (0xA0 ≤ code && code ≤ 0xD7FF) || (0xE000 ≤ code && code ≤ 0xFFFD) || 0x10000 ≤ code

/-- The tokens of a text. -/
def tokensOf [Spares] (text : List Char) : List Token :=
  if text.all isAllowed then (Cutting.start text).all (text.length + 2) else [.fault .malformed]

end ApiCompiler.Yaml
