/-!
# Base 64

Bytes written as letters, six bits each. Characters outside the alphabet are passed over; the
padding that completes a group of four ends a text that is read.
-/

namespace ApiCompiler.Text

/-- The six bits that a letter of the alphabet stands for. -/
def sextet? (letter : Char) : Option Nat :=
  let code := letter.toNat
  if 0x41 ≤ code && code ≤ 0x5A then some (code - 0x41)
  else if 0x61 ≤ code && code ≤ 0x7A then some (code - 0x61 + 26)
  else if 0x30 ≤ code && code ≤ 0x39 then some (code - 0x30 + 52)
  else if letter == '+' then some 62
  else if letter == '/' then some 63
  else none

/-- The whole bytes of a group of up to four letters. -/
def bytesOfGroup : List Nat → List UInt8
  | first :: second :: rest =>
    (first * 4 + second / 16).toUInt8 :: match rest with
      | [] => []
      | third :: rest =>
        (second % 16 * 16 + third / 4).toUInt8 :: match rest with
          | [] => []
          | fourth :: _ => [(third % 4 * 64 + fourth).toUInt8]
  | _ => []

private def decodeGroups (group : List Nat) (padding : Nat) : List Char → Option (List UInt8)
  | [] => if group.isEmpty then some [] else none
  | letter :: rest =>
    if letter == '=' then
      if group.length < 2 then decodeGroups group padding rest
      else if group.length + padding + 1 < 4 then decodeGroups group (padding + 1) rest
      else some (bytesOfGroup group)
    else match sextet? letter with
      | none => decodeGroups group padding rest
      | some value =>
        let group := group ++ [value]
        if group.length < 4 then decodeGroups group 0 rest
        else (decodeGroups [] 0 rest).map (bytesOfGroup group ++ ·)

/-- The bytes that a text writes; an incomplete last group needs its padding. -/
def base64? (text : List Char) : Option (List UInt8) :=
  decodeGroups [] 0 text

/-- The letter of the alphabet that stands for six bits. -/
def sextetLetter (value : Nat) : Char :=
  if value < 26 then Char.ofNat (0x41 + value)
  else if value < 52 then Char.ofNat (0x61 + value - 26)
  else if value < 62 then Char.ofNat (0x30 + value - 52)
  else if value = 62 then '+'
  else '/'

private def sextetsOf (first second third : UInt8) : List Char :=
  let bits := (first.toNat * 256 + second.toNat) * 256 + third.toNat
  [bits / 262144, bits / 4096 % 64, bits / 64 % 64, bits % 64].map sextetLetter

/-- The text that writes bytes, its last group padded. -/
def writeBase64 : List UInt8 → List Char
  | [] => []
  | [first] => (sextetsOf first 0 0).take 2 ++ ['=', '=']
  | [first, second] => (sextetsOf first second 0).take 3 ++ ['=']
  | first :: second :: third :: rest => sextetsOf first second third ++ writeBase64 rest

end ApiCompiler.Text
