/-!
# Cursors

A place in a YAML text that knows its line and column, and the classes of characters that end lines
and tokens there.
-/

namespace ApiCompiler.Yaml

/-- The mark that a text may start with; it takes no column. -/
def byteOrderMark : Char := '\uFEFF'

/-- A character that breaks a line. -/
def isBreak (character : Char) : Bool :=
  character == '\n' || character == '\r' || character == '\x85' || character == '\u2028' ||
    character == '\u2029'

/-- A line break or the end of the text. -/
def endsLine : Option Char → Bool
  | none => true
  | some character => isBreak character

/-- A space, a line break or the end of the text. -/
def endsWord : Option Char → Bool
  | some ' ' => true
  | character => endsLine character

/-- A space, a tab, a line break or the end of the text. -/
def endsToken : Option Char → Bool
  | some '\t' => true
  | character => endsWord character

/-- What is left of a text, and where that starts. -/
structure Cursor where
  rest : List Char
  index : Nat
  line : Nat
  column : Nat
deriving Repr

namespace Cursor

/-- The start of a text. -/
def start (text : List Char) : Cursor :=
  ⟨text, 0, 0, 0⟩

/-- The next character. -/
def peek (cursor : Cursor) : Option Char :=
  cursor.rest.head?

/-- The character some places on. -/
def peekAt (cursor : Cursor) (distance : Nat) : Option Char :=
  cursor.rest[distance]?

/-- Passes one character; a carriage return before a line feed starts no line of its own. -/
def step (cursor : Cursor) : Cursor :=
  match cursor.rest with
  | [] => cursor
  | character :: rest =>
    if isBreak character && !(character == '\r' && rest.head? == some '\n') then
      ⟨rest, cursor.index + 1, cursor.line + 1, 0⟩
    else
      ⟨rest, cursor.index + 1, cursor.line,
        if character == byteOrderMark then cursor.column else cursor.column + 1⟩

/-- Passes several characters. -/
def advance : Nat → Cursor → Cursor
  | 0, cursor => cursor
  | count + 1, cursor => advance count cursor.step

def spanFrom (test : Char → Bool) : List Char → Cursor → List Char × Cursor
  | [], cursor => ([], cursor)
  | character :: rest, cursor =>
    if test character then
      let (taken, cursor) := spanFrom test rest cursor.step
      (character :: taken, cursor)
    else ([], cursor)

/-- The longest run of characters that satisfy a test, and the place behind it. -/
def span (test : Char → Bool) (cursor : Cursor) : List Char × Cursor :=
  spanFrom test cursor.rest cursor

/-- Passes the characters that satisfy a test. -/
def skip (test : Char → Bool) (cursor : Cursor) : Cursor :=
  (cursor.span test).2

/-- Passes spaces. -/
def skipSpaces (cursor : Cursor) : Cursor :=
  cursor.skip (· == ' ')

/-- Passes the rest of the line, but not its break. -/
def skipLine (cursor : Cursor) : Cursor :=
  cursor.skip fun character => !isBreak character

/-- Passes a comment that starts here. -/
def skipComment (cursor : Cursor) : Cursor :=
  if cursor.peek == some '#' then cursor.skipLine else cursor

/-- Passes a line break; all but the Unicode separators count as line feeds. -/
def takeBreak (cursor : Cursor) : List Char × Cursor :=
  match cursor.rest with
  | '\r' :: '\n' :: _ => (['\n'], cursor.advance 2)
  | '\u2028' :: _ => (['\u2028'], cursor.step)
  | '\u2029' :: _ => (['\u2029'], cursor.step)
  | character :: _ => if isBreak character then (['\n'], cursor.step) else ([], cursor)
  | [] => ([], cursor)

/-- Three equal marks that stand as a word of their own. -/
def atMarks (cursor : Cursor) (mark : Char) : Bool :=
  cursor.rest.take 3 == [mark, mark, mark] && endsToken (cursor.peekAt 3)

/-- A mark that separates documents. -/
def atSeparator (cursor : Cursor) : Bool :=
  cursor.atMarks '-' || cursor.atMarks '.'

end Cursor

end ApiCompiler.Yaml
