import ApiCompiler.Text.Digit
import ApiCompiler.Text.Lines

/-!
# Numeric hosts

Hosts that are numbers: four octets between dots, or eight groups of hexadecimal digits between
colons. One run of zero groups may be left out of a long address, its last two groups may be written
as octets, and a percent sign leads to the scope that it is used in.
-/

namespace ApiCompiler.Host

open Text

/-- Four runs of digits between dots. -/
def looksLikeOctets (host : List Char) : Bool :=
  let pieces := splitAt '.' host
  pieces.length == 4 && pieces.all fun piece => !piece.isEmpty && piece.all isDigit

private def isOctet (piece : List Char) : Bool :=
  !piece.isEmpty && piece.length ≤ 3 && piece.all isDigit &&
    (piece.length == 1 || piece.head? != some '0') &&
    digitsValue 10 (piece.map fun digit => digit.toNat - 0x30) ≤ 255

/-- An address of four octets. -/
def isShortAddress (host : List Char) : Bool :=
  let pieces := splitAt '.' host
  pieces.length == 4 && pieces.all isOctet

private def isGroup (piece : List Char) : Bool :=
  !piece.isEmpty && piece.length ≤ 4 && piece.all fun digit => (baseDigit? 16 digit).isSome

/-- The pieces with two groups in place of a last one that is an address of four octets. -/
def withoutOctets (pieces : List (List Char)) : Option (List (List Char)) :=
  match pieces.getLast? with
  | none => some pieces
  | some last =>
    if !last.contains '.' then some pieces
    else if isShortAddress last then some (pieces.dropLast ++ [['0'], ['0']])
    else none

/-- The groups on one side of a run that is left out; at the very end there are none. -/
private def sideGroups (pieces : List (List Char)) : List (List Char) :=
  if pieces == [[]] then [] else pieces

/-- Eight groups, or fewer around one run that is left out. -/
def areGroups (pieces : List (List Char)) : Bool :=
  let inner := (pieces.drop 1).dropLast
  match inner.filter (·.isEmpty) with
  | [] => pieces.length == 8 && pieces.all isGroup
  | [_] =>
    let before := 1 + (inner.takeWhile (!·.isEmpty)).length
    let groups := sideGroups (pieces.take before) ++ sideGroups (pieces.drop (before + 1))
    groups.length ≤ 7 && groups.all isGroup
  | _ => false

/-- A scope behind its percent sign, or none. -/
def isScope (scope : List Char) : Bool :=
  scope.isEmpty || (scope.length != 1 && !(scope.drop 1).contains '%')

/-- An address of eight groups, perhaps with a scope. -/
def isLongAddress (host : List Char) : Bool :=
  let address := host.takeWhile (· != '%')
  isScope (host.drop address.length) &&
    ((withoutOctets (splitAt ':' address)).map areGroups).getD false

end ApiCompiler.Host
