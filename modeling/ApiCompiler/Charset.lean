import ApiCompiler.Charset.Pairing
import ApiCompiler.Charset.Table
import ApiCompiler.Charset.Wide
import ApiCompiler.Text.Blank
import ApiCompiler.Text.Lines
import ApiCompiler.Text.Lowercase

/-!
# Charsets

How the bytes of a text are read as characters. Bytes that write none are read as replacements; some
charsets do not read bytes at all, and wide characters need an order.
-/

namespace ApiCompiler

/-- A way of reading bytes as characters. -/
inductive Charset where
  /-- Every byte writes a character. The last bytes write some that are given, all others ASCII. -/
  | single (characters : String)
  | utf8
  /-- UTF-8 behind a mark that may be there. -/
  | markedUtf8
  | wide (width : Charset.Width) (order : Option Charset.ByteOrder)
  | paired (pairing : Charset.Pairing)
  /-- Bytes of seven bits, in which letters may stand for other characters. -/
  | shifted
  | unreadable (fault : Charset.Fault)
deriving Repr, DecidableEq

namespace Charset

private def latin1 : Charset :=
  .single (String.ofList ((List.range 0x80).map fun code => Char.ofNat (0x80 + code)))

/-- Names of charsets that write more than ASCII behind escapes only, which no document holds. -/
private def escaped : List String := [
  "iso2022_jp", "csiso2022jp", "iso2022jp", "iso_2022_jp", "iso2022_jp_1", "iso2022jp_1",
  "iso_2022_jp_1", "iso2022_jp_2", "iso2022jp_2", "iso_2022_jp_2", "iso2022_jp_2004",
  "iso2022jp_2004", "iso_2022_jp_2004", "iso2022_jp_3", "iso2022jp_3", "iso_2022_jp_3",
  "iso2022_jp_ext", "iso2022jp_ext", "iso_2022_jp_ext", "iso2022_kr", "csiso2022kr", "iso2022kr",
  "iso_2022_kr"]

private def named : List (List String × Charset) := [
  (["ascii", "646", "ansi_x3.4_1968", "ansi_x3.4_1986", "ansi_x3_4_1968", "cp367", "csascii",
    "ibm367", "iso646_us", "iso_646.irv_1991", "iso_ir_6", "us", "us_ascii"], .single ""),
  (escaped, .single ""),
  (["latin_1", "8859", "cp819", "csisolatin1", "ibm819", "iso8859", "iso8859_1", "iso_8859_1",
    "iso_8859_1_1987", "iso_ir_100", "l1", "latin", "latin1", "charmap"], latin1),
  (["utf_8", "cp65001", "u8", "utf", "utf8", "utf8_ucs2", "utf8_ucs4"], .utf8),
  (["utf_8_sig"], .markedUtf8),
  (["utf_7", "u7", "unicode_1_1_utf_7", "utf7"], .shifted),
  (["utf_16", "u16", "utf16"], .wide .units none),
  (["utf_16_le", "unicodelittleunmarked", "utf_16le"], .wide .units (some .lowFirst)),
  (["utf_16_be", "unicodebigunmarked", "utf_16be"], .wide .units (some .highFirst)),
  (["utf_32", "u32", "utf32"], .wide .quadruples none),
  (["utf_32_le", "utf_32le"], .wide .quadruples (some .lowFirst)),
  (["utf_32_be", "utf_32be"], .wide .quadruples (some .highFirst)),
  (["gb2312", "chinese", "csiso58gb231280", "euc_cn", "euccn", "eucgb2312_cn", "gb2312_1980",
    "gb2312_80", "iso_ir_58", "x_mac_simp_chinese"], .paired .gb2312),
  (["gbk", "936", "cp936", "ms936"], .paired .gbk),
  (["gb18030", "gb18030_2000"], .paired .gb18030),
  (["big5", "big5_tw", "csbig5", "x_mac_trad_chinese"], .paired .big5),
  (["cp950", "950", "ms950"], .paired .cp950),
  (["euc_kr", "euckr", "korean", "ks_c_5601", "ks_c_5601_1987", "ks_x_1001", "ksc5601", "ksx1001",
    "x_mac_korean"], .paired .eucKr),
  (["cp949", "949", "ms949", "uhc"], .paired .cp949),
  (["shift_jis", "csshiftjis", "s_jis", "shiftjis", "sjis", "x_mac_japanese"], .paired .shiftJis),
  (["cp932", "932", "ms932", "ms_kanji", "mskanji"], .paired .cp932),
  (["euc_jp", "eucjp", "u_jis", "ujis"], .paired .eucJp),
  (["idna", "undefined"], .unreadable .strict),
  (["base64_codec", "base64", "base_64", "bz2_codec", "bz2", "hex_codec", "hex", "quopri_codec",
    "quopri", "quoted_printable", "quotedprintable", "uu_codec", "uu", "zlib_codec", "zip", "zlib"],
    .unreadable .writesBytes),
  (["rot_13", "rot13"], .unreadable .rewritesCharacters)
]

private def isNameCharacter (character : Char) : Bool :=
  character.isAlphanum || character == '.'

/-- A name with one underscore for what is between its letters and digits. -/
private def plainName : Bool → List Char → List Char
  | _, [] => []
  | isParted, character :: rest =>
    if isNameCharacter character then
      if isParted then '_' :: character :: plainName false rest
      else character :: plainName false rest
    else plainName true rest

private def tables : List (List String × String) :=
  extensions ++ wholeTables

/-- The charset of a name in small letters. -/
def ofName? (name : String) : Option Charset :=
  let name := String.ofList (plainName false (name.toList.dropWhile (!isNameCharacter ·)))
  match named.find? (·.1.contains name) with
  | some entry => some entry.2
  | none => (tables.find? (·.1.contains name)).map fun entry => .single entry.2

/-- An odd number of quotation marks that no backslash is before. -/
private def isOpen (isEscaped : Bool) : List Char → Bool
  | [] => false
  | '"' :: rest => if isEscaped then isOpen false rest else !isOpen false rest
  | character :: rest => isOpen (character == '\\') rest

/-- The pieces between semicolons; one inside quotation marks is part of its piece. -/
private def parametersFrom (piece : List Char) : List (List Char) → List (List Char)
  | [] => [piece]
  | next :: rest =>
    if isOpen false piece then parametersFrom (piece ++ ';' :: next) rest
    else piece :: parametersFrom next rest

private def parametersOf (contentType : List Char) : List (List Char) :=
  match Text.splitAt ';' contentType with
  | [] => []
  | piece :: rest => parametersFrom piece rest

private def dropBackslashes (mark : Char) : List Char → List Char
  | '\\' :: character :: rest =>
    if character == mark then mark :: dropBackslashes mark rest
    else '\\' :: dropBackslashes mark (character :: rest)
  | character :: rest => character :: dropBackslashes mark rest
  | [] => []

private def unquote (text : List Char) : List Char :=
  let inner := (text.drop 1).dropLast
  if text.length < 2 then text
  else if text.head? == some '"' && text.getLast? == some '"' then
    dropBackslashes '"' (dropBackslashes '\\' inner)
  else if text.head? == some '<' && text.getLast? == some '>' then inner
  else text

private def charsetName? (contentType : String) : Option String := do
  let isCharset (parameter : List Char) :=
    Text.lowercase (Text.trim (parameter.takeWhile (· != '='))) == "charset".toList
  let parameter ← (parametersOf contentType.toList).find? isCharset
  let name := unquote (Text.trim ((parameter.dropWhile (· != '=')).drop 1))
  if name.all (·.toNat < 0x80) then some (String.ofList (name.map Char.toLower)) else none

/-- The charset that a media type names, if it is known, and UTF-8 otherwise. -/
def ofContentType (contentType : String) : Charset :=
  ((charsetName? contentType).bind ofName?).getD .utf8

private def readSingle (characters : Array Char) (byte : UInt8) : Char :=
  let plain := 256 - characters.size
  if plain ≤ byte.toNat then characters.getD (byte.toNat - plain) Text.Utf8.replacement
  else if byte.toNat < 0x80 then Char.ofNat byte.toNat
  else Text.Utf8.replacement

private def utf8Mark : List UInt8 := [0xEF, 0xBB, 0xBF]

private def withoutMark (content : List UInt8) : List UInt8 :=
  if utf8Mark.isPrefixOf content then content.drop 3 else content

private def charactersOf (content : List UInt8) : Charset → Except Fault (List Char)
  | .single characters => .ok (content.map (readSingle characters.toList.toArray))
  | .utf8 => .ok (Text.Utf8.decodeLeniently content)
  | .markedUtf8 => .ok (Text.Utf8.decodeLeniently (withoutMark content))
  | .wide width (some order) => .ok (readOrdered order content width)
  | .wide width none => readMarked content width
  | .paired pairing => .ok (pairing.read content)
  | .shifted => .ok (readShifted content)
  | .unreadable fault => .error fault

/-- The text that bytes write. No bytes are the empty text in every charset. -/
def read (charset : Charset) (content : List UInt8) : Except Fault String :=
  if content.isEmpty then .ok "" else (charactersOf content charset).map String.ofList

end Charset

end ApiCompiler
