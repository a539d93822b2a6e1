import ApiCompiler.Text.Digit
import ApiCompiler.Text.Lines
import ApiCompiler.Text.Quoted
import ApiCompiler.Text.Utf8

/-!
# Percent escapes

Characters that an address cannot hold are written byte by byte, each byte as a percent sign and two
digits. Forms write all their bytes so, but a space as a plus.
-/

namespace ApiCompiler.Wire

open Text

/-- A byte as a percent sign and two digits. -/
def escapeByte (byte : UInt8) : List Char :=
  '%' :: (hexDigits 2 byte.toNat).map Char.toUpper

/-- A text in which only the characters that satisfy a test stand for themselves. -/
def percentEncode (isSafe : Char → Bool) (text : List Char) : List Char :=
  text.flatMap fun character =>
    if isSafe character then [character]
    else (String.utf8EncodeChar character).flatMap escapeByte

/-- The printable characters of ASCII. -/
def isPrintableAscii (character : Char) : Bool :=
  0x20 ≤ character.toNat && character.toNat < 0x7F

/-- The printable characters of ASCII but a few. -/
def isSafeBut (unsafeCharacters : String) (character : Char) : Bool :=
  isPrintableAscii character && !unsafeCharacters.toList.contains character

/-- The characters of a query. -/
def isQuerySafe : Char → Bool :=
  isSafeBut " \"#<>"

/-- The characters of a path. -/
def isPathSafe : Char → Bool :=
  isSafeBut " \"#<>?`\x7b\x7d"

/-- The characters of a fragment. -/
def isFragmentSafe : Char → Bool :=
  isSafeBut " \"<>`"

/-- The characters of a user's name and password. -/
def isUserSafe : Char → Bool :=
  isSafeBut " \"#<>?`\x7b\x7d/;=@[\\]^|"

def isAsciiLetter (character : Char) : Bool :=
  ('a' ≤ character && character ≤ 'z') || ('A' ≤ character && character ≤ 'Z')

/-- Letters, digits and the marks that are never escaped. -/
def isUnreserved (character : Char) : Bool :=
  isAsciiLetter character || isDigit character || "-._~".toList.contains character

/-- The characters of the name of a host. -/
def isHostSafe (character : Char) : Bool :=
  isUnreserved character || "!$&'()*+,;=\"`\x7b\x7d%|\\".toList.contains character

private def escapedByte? (high low : Char) : Option UInt8 := do
  return ((← baseDigit? 16 high) * 16 + (← baseDigit? 16 low)).toUInt8

private def decodeAfter : List UInt8 → List Char → List Char
  | bytes, [] => Utf8.decodeLeniently bytes.reverse
  | bytes, '%' :: high :: low :: rest =>
    match escapedByte? high low with
    | some byte => decodeAfter (byte :: bytes) rest
    | none => decodeAfter ('%'.toUInt8 :: bytes) (high :: low :: rest)
  | bytes, character :: rest =>
    if character.toNat < 0x80 then decodeAfter (character.toUInt8 :: bytes) rest
    else Utf8.decodeLeniently bytes.reverse ++ character :: decodeAfter [] rest

/-- The text that a text with escapes stands for. Escaped bytes that are no characters are read as
replacements. -/
def percentDecode (text : List Char) : List Char :=
  decodeAfter [] text

/-- The bytes of a text. -/
def bytesOf (text : String) : List UInt8 :=
  text.toUTF8.toList

/-- A byte inside a form: a plus stands for a space. -/
def formByte (byte : UInt8) : List Char :=
  let character := Char.ofNat byte.toNat
  if character == ' ' then ['+']
  else if isUnreserved character then [character]
  else escapeByte byte

/-- Names and values as a form. -/
def writeForm (fields : List (List UInt8 × String)) : List Char :=
  joinWith ['&'] (fields.map fun (name, value) =>
    name.flatMap formByte ++ '=' :: (bytesOf value).flatMap formByte)

private def formPart (text : List Char) : String :=
  String.ofList (percentDecode (text.map fun character =>
    if character == '+' then ' ' else character))

/-- The names and values of a form; one that lacks its value has an empty one. -/
def readForm (text : List Char) : List (String × String) :=
  ((splitAt '&' text).filter (!·.isEmpty)).map fun field =>
    (formPart (field.takeWhile (· != '=')), formPart ((field.dropWhile (· != '=')).drop 1))

end ApiCompiler.Wire
