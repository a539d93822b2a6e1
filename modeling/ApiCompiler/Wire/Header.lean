import ApiCompiler.Call.Mapping
import ApiCompiler.Text.Lowercase
import ApiCompiler.Text.Utf8
import ApiCompiler.Value.Display
import ApiCompiler.Wire.Fault
import ApiCompiler.Wire.Url

/-!
# Headers

Names and values of headers are bytes. All headers of a message are read in one encoding, the
narrowest of three that fits them. Names are without case. The cookies of a request are sent as one
of its headers.
-/

namespace ApiCompiler.Wire

open Call (Entries halvesOf pairOf partsOf?)

/-- How the bytes of headers are read as characters. -/
inductive Encoding where
  | ascii
  | utf8
  | latin1
deriving Repr, DecidableEq

namespace Encoding

/-- The characters that bytes write. -/
def read (content : List UInt8) : Encoding → String
  | .utf8 => String.ofList (Text.Utf8.decodeLeniently content)
  | _ => String.ofList (content.map fun byte => Char.ofNat byte.toNat)

/-- The bytes that write a text. -/
def write? (text : String) : Encoding → Option (List UInt8)
  | .utf8 => some text.toUTF8.toList
  | .ascii => bytesBelow 0x80
  | .latin1 => bytesBelow 0x100
where
  bytesBelow (bound : Nat) : Option (List UInt8) :=
    if text.toList.all (·.toNat < bound) then some (text.toList.map Char.toUInt8) else none

end Encoding

/-- A header; capitals of its name are written small. -/
structure Header where
  name : List UInt8
  value : List UInt8
deriving Repr, DecidableEq

/-- The headers of a message, in order. -/
abbrev Headers := List Header

namespace Headers

private def isAscii (content : List UInt8) : Bool :=
  content.all (·.toNat < 0x80)

private def isUtf8 (content : List UInt8) : Bool :=
  (Text.Utf8.decode content).isOk

/-- The narrowest encoding that reads every name and value. -/
def encoding (headers : Headers) : Encoding :=
  let fits (test : List UInt8 → Bool) := headers.all fun header =>
    test header.name && test header.value
  if fits isAscii then .ascii else if fits isUtf8 then .utf8 else .latin1

/-- The names and values as text. -/
def shown (headers : Headers) : List (String × String) :=
  let encoding := headers.encoding
  headers.map fun header => (encoding.read header.name, encoding.read header.value)

/-- Whether a header of a name is there. -/
def has (headers : Headers) (name : String) : Bool :=
  headers.any (·.name == name.toUTF8.toList)

/-- The headers with one of a name, in place of those that are there. -/
def put (headers : Headers) (name : String) (value : List UInt8) : Headers :=
  let name := name.toUTF8.toList
  let others := headers.filter (·.name != name)
  match headers.findIdx? (·.name == name) with
  | none => headers ++ [⟨name, value⟩]
  | some place => (others.take place) ++ ⟨name, value⟩ :: others.drop place

/-- The headers with one more, unless its name is there. -/
def putNew (headers : Headers) (name value : String) : Headers :=
  if headers.has name then headers else headers ++ [⟨name.toUTF8.toList, value.toUTF8.toList⟩]

private def bytesOfText (text : String) : Except Fault (List UInt8) :=
  match Encoding.ascii.write? text with
  | some content => .ok content
  | none => .error .badHeader

private def nameOf : Value → Except Fault (List UInt8)
  | .str name => bytesOfText name
  | .bytes name => .ok name
  | _ => Fault.ofMisuse .noFields

private def valueOf : Value → Except Fault (List UInt8)
  | .str text => bytesOfText text
  | .bytes content => .ok content
  | _ => Fault.ofMisuse .wrongKind

private def small (byte : UInt8) : UInt8 :=
  if 0x41 ≤ byte.toNat && byte.toNat ≤ 0x5A then byte + 0x20 else byte

private def headerOf (name value : Value) : Except Fault Header := do
  return ⟨(← nameOf name).map small, ← valueOf value⟩

private def listed : Value → Except Fault Headers
  | .null => .ok []
  | .map entries => entries.mapM fun (name, value) => headerOf name value
  | headers =>
    match partsOf? headers with
    | none => Fault.ofMisuse .wrongKind
    | some parts => parts.mapM fun part => do
      let (name, value) ← Fault.lift (halvesOf part)
      headerOf name value

private def isPlainName (name : String) : Bool :=
  (Text.lowercase name.toList).all (·.toNat < 0x80)

/-- The headers that a value gives, as a mapping or as a row of pairs. -/
def ofValue (headers : Value) : Except Fault Headers := do
  let headers ← listed headers
  if headers.shown.all (isPlainName ·.1) then return headers else throw .badHeader

end Headers

/-- Names and values of cookies. -/
abbrev Cookies := Entries

namespace Cookies

private def put (cookies : Cookies) (cookie : Value × Value) : Cookies :=
  if cookies.any (·.1.sameKey cookie.1) then
    cookies.map fun other => if other.1.sameKey cookie.1 then cookie else other
  else cookies ++ [cookie]

/-- The cookies that a value gives, as a mapping or as a row of pairs. -/
def ofValue (cookies : Value) : Except Fault Cookies :=
  if cookies.isVacant then .ok []
  else match cookies with
    | .map entries => .ok entries
    | .list pairs => pairs.foldlM (fun cookies pair => do
        return cookies.put (← Fault.lift (pairOf pair))) []
    | cookies =>
      Fault.ofMisuse (if (Call.partsOf? cookies).isSome then .noFields else .wrongKind)

/-- The piece of the header that a cookie gives. A cookie without a value gives its bare name, which
may be of any kind. -/
private def pieceOf (cookie : Value × Value) : Except Fault Value :=
  match cookie.2 with
  | .null => .ok cookie.1
  | .str value => do return .str ((← Fault.lift cookie.1.shown) ++ "=" ++ value)
  | _ => Fault.ofMisuse .wrongKind

private def textOf (piece : Value) : Except Fault String :=
  match piece with
  | .str text => .ok text
  | _ => Fault.ofMisuse .wrongKind

/-- The headers with one for all cookies, unless there is such a header already. The address has to
be of a kind that cookies are known for. -/
def addTo (cookies : Cookies) (url : Url) (headers : Headers) : Except Fault Headers := do
  if cookies.isEmpty then return headers
  if !url.hasKind then Fault.ofMisuse .badContent
  let pieces ← cookies.mapM pieceOf
  if headers.has "cookie" then return headers
  let pieces ← pieces.mapM textOf
  match headers.encoding.write? (String.intercalate "; " pieces) with
  | some content => return headers.put "cookie" content
  | none => throw .badHeader

end Cookies

end ApiCompiler.Wire
