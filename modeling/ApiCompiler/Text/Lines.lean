/-!
# Lines

Cutting a text at its line ends, reading every line end as a line feed, and indenting the lines
after the first. Vertical tabs, form feeds, the separator controls and the Unicode separators end a
line too; a carriage return and a line feed together end one line.
-/

namespace ApiCompiler.Text

/-- The characters that end a line on their own. -/
def endsLine (character : Char) : Bool :=
  let code := character.toNat
  (0x0A ≤ code && code ≤ 0x0D) || (0x1C ≤ code && code ≤ 0x1E) || code == 0x85 ||
    code == 0x2028 || code == 0x2029

def gatherLines : List Char → List Char → List (List Char)
  | [], [] => []
  | line, [] => [line.reverse]
  | line, '\r' :: '\n' :: rest => line.reverse :: gatherLines [] rest
  | line, character :: rest =>
    if endsLine character then line.reverse :: gatherLines [] rest
    else gatherLines (character :: line) rest

/-- The lines of a text without their ends; an end at the very end opens no further line. -/
def lines (text : List Char) : List (List Char) :=
  gatherLines [] text

/-- Every carriage return, alone or before a line feed, becomes one line feed. -/
def normalizeNewlines : List Char → List Char
  | '\r' :: '\n' :: rest => '\n' :: normalizeNewlines rest
  | '\r' :: rest => '\n' :: normalizeNewlines rest
  | character :: rest => character :: normalizeNewlines rest
  | [] => []

/-- The pieces between a separator's occurrences; there is always at least one. -/
def splitAt (separator : Char) : List Char → List (List Char)
  | [] => [[]]
  | character :: rest =>
    if character = separator then [] :: splitAt separator rest
    else match splitAt separator rest with
      | [] => [[character]]
      | piece :: pieces => (character :: piece) :: pieces

/-- The pieces put together with a separator between neighbours. -/
def joinWith (separator : List Char) : List (List Char) → List Char
  | [] => []
  | [piece] => piece
  | piece :: pieces => piece ++ separator ++ joinWith separator pieces

/--
The lines of a text joined by line feeds, every one after the first that is not empty pushed right.
A line end at the end of the text gives an empty last line.
-/
def indentAfterFirst (width : Nat) (text : List Char) : List Char :=
  match lines (text ++ ['\n']) with
  | [] => []
  | first :: rest =>
    joinWith ['\n'] (first :: rest.map fun line =>
      if line.isEmpty then line else List.replicate width ' ' ++ line)

theorem splitAt_ne_nil (separator : Char) (text : List Char) : splitAt separator text ≠ [] := by
  cases text with
  | nil => simp [splitAt]
  | cons character rest =>
    unfold splitAt
    split
    · simp
    · split <;> simp

end ApiCompiler.Text
