import ApiCompiler.Text.Blank
import ApiCompiler.Text.Lines

/-!
# Fragments of modules

The text of a generated module is a row of fragments: code, which the plans determine, and prose,
which stands between triple quotes and has no effect. Prose holds free text of a description; a
backslash stands before each quote and backslash in it, so it never ends the documentation around
it.
-/

namespace ApiCompiler.Module

/-- A stretch of a module's text. -/
inductive Fragment where
  | code (text : String)
  | prose (text : String)
deriving Repr, DecidableEq

def Fragment.text : Fragment → String
  | .code text => text
  | .prose text => text

/-- Lines that all end in a line feed. -/
def unlines (lines : List String) : String :=
  String.join (lines.map (· ++ "\n"))

/-- The text of a row of fragments. -/
def textOf (fragments : List Fragment) : String :=
  String.join (fragments.map Fragment.text)

/-- One character of prose. -/
def escapeProse (character : Char) : List Char :=
  if character = '\\' || character = '"' then ['\\', character] else [character]

/-- A text as prose, without the blanks at its ends. -/
def prose (text : String) : List Char :=
  (Text.trim text.toList).flatMap escapeProse

/-- Prose that starts on a line of its own place. -/
def proseOf (text : String) : String :=
  String.ofList (prose text)

/-- Prose whose later lines stand as far to the right as its first one. -/
def proseAt (width : Nat) (text : String) : String :=
  String.ofList (Text.indentAfterFirst width (prose text))

end ApiCompiler.Module
