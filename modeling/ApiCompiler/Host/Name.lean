import ApiCompiler.Host.Composition
import ApiCompiler.Host.Direction
import ApiCompiler.Host.Neighbours
import ApiCompiler.Host.Permitted
import ApiCompiler.Host.Punycode
import ApiCompiler.Text.Lines

/-!
# Names of hosts

Names of hosts in the characters of any script, and the ASCII names that stand for them. A name
consists of pieces between dots; a piece that is not ASCII is written in letters and digits behind a
mark.
-/

namespace ApiCompiler.Host

open Text

/-- Why a text is no name of a host. -/
inductive Fault where
  /-- A piece that is empty, too long, or not formed as one. -/
  | badForm
  /-- A character that no name has. -/
  | badCharacter
  /-- A character that stands beside the wrong ones. -/
  | badNeighbours
  /-- Characters of opposite directions in one piece. -/
  | badDirection
deriving Repr, DecidableEq

private def longestPiece : Nat := 63

private def longestName : Nat := 253

private def hyphen : Nat := '-'.toNat

private def hasGoodForm (piece : List Nat) : Bool :=
  !piece.isEmpty && piece.length ≤ longestName + 1 && isComposed piece &&
    (piece.drop 2).take 2 != [hyphen, hyphen] &&
    piece.head? != some hyphen && piece.getLast? != some hyphen && !piece.head?.any isMark

/-- Each character is permitted, or stands well between its neighbours. -/
def checkCharacters : List Nat → List Nat → Except Fault Unit
  | _, [] => .ok ()
  | before, code :: behind =>
    if isPermitted code then checkCharacters (code :: before) behind
    else if !isBound code then .error .badCharacter
    else if standsWell before code behind then checkCharacters (code :: before) behind
    else .error .badNeighbours

/-- A piece is well formed, of permitted characters that go together. -/
def checkPiece (piece : List Nat) : Except Fault Unit := do
  if !hasGoodForm piece then throw .badForm
  checkCharacters [] piece
  if !areDirected (piece.map Direction.of) then throw .badDirection

/-- What an ASCII piece begins with that stands for another piece. -/
def asciiMark : List Char := "xn--".toList

/-- A piece in ASCII; behind the mark it stands for a piece that is checked instead. -/
def checkAsciiPiece (piece : List Char) : Except Fault Unit :=
  if asciiMark.isPrefixOf piece then
    let written := piece.drop asciiMark.length
    if written.isEmpty || written.getLast? == some '-' then .error .badForm
    else match Punycode.read written with
      | some piece => checkPiece piece
      | none => .error .badForm
  else checkPiece (piece.map Char.toNat)

/-- The ASCII piece that stands for a piece. -/
def asciiPiece (piece : List Char) : Except Fault (List Char) := do
  let piece ←
    if piece.all (·.toNat < 0x80) then do
      checkAsciiPiece piece
      pure piece
    else do
      let codes := piece.map Char.toNat
      checkPiece codes
      pure (asciiMark ++ Punycode.write codes)
  if longestPiece < piece.length then throw .badForm
  return piece

private def otherDots : List Nat := [0x3002, 0xFF0E, 0xFF61]

/-- The pieces of a name, and whether it ends with a dot. -/
private def piecesOf (name : List Char) : List (List Char) × Bool :=
  let pieces := splitAt '.' (name.map fun character =>
    if otherDots.contains character.toNat then '.' else character)
  if pieces.getLast? == some [] then (pieces.dropLast, true) else (pieces, false)

private def fits (endsWithDot : Bool) (name : List Char) : Bool :=
  name.length ≤ if endsWithDot then longestName + 1 else longestName

/-- The ASCII name that stands for a name in small letters. -/
def asciiName (name : List Char) : Except Fault (List Char) := do
  if !fits true name then throw .badForm
  let (pieces, endsWithDot) := piecesOf name
  let pieces ← pieces.mapM asciiPiece
  let written := joinWith ['.'] (if endsWithDot then pieces ++ [[]] else pieces)
  if fits endsWithDot written then return written else throw .badForm

/-- The pieces of an ASCII name that starts with the mark stand for pieces. -/
def checkAsciiName (name : List Char) : Except Fault Unit := do
  if asciiMark.isPrefixOf name then
    if !fits true name then throw .badForm
    (piecesOf name).1.forM checkAsciiPiece

end ApiCompiler.Host
