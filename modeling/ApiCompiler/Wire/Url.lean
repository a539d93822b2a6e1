import ApiCompiler.Host.Name
import ApiCompiler.Host.Numeric
import ApiCompiler.Text.Digit
import ApiCompiler.Text.Lowercase
import ApiCompiler.Wire.Fault
import ApiCompiler.Wire.Percent

/-!
# Addresses

Addresses in their parts. Schemes and hosts are lower-cased, a port number that the scheme implies
is left out, and what an address cannot hold is escaped. A relative address is appended to the path
of a base.
-/

namespace ApiCompiler.Wire

open Text

/-- An address. -/
structure Url where
  scheme : List Char
  user : List Char
  host : List Char
  port : Option Int
  path : List Char
  query : Option (List Char)
  fragment : Option (List Char)
deriving Repr, DecidableEq

namespace Url

/-- The parts of a text that is an address, as they are written. -/
structure Parts where
  scheme : List Char
  authority : List Char
  path : List Char
  query : Option (List Char)
  fragment : Option (List Char)
deriving Repr, DecidableEq

def isSchemeCharacter (character : Char) : Bool :=
  character.isAlphanum || character == '+' || character == '.' || character == '-'

/-- The scheme in front of a text, which a colon ends, and the rest. -/
def takeScheme (text : List Char) : List Char × List Char :=
  let scheme := if text.head?.any Char.isAlpha then text.takeWhile isSchemeCharacter else []
  match text.drop scheme.length with
  | ':' :: rest => (scheme, rest)
  | _ => ([], text)

/-- The authority behind two slashes, and the rest. -/
def takeAuthority : List Char → List Char × List Char
  | '/' :: '/' :: rest => rest.span fun character => !"/?#".toList.contains character
  | text => ([], text)

/-- Cuts a text into the parts of an address. -/
def split (text : List Char) : Parts :=
  let (scheme, rest) := takeScheme text
  let (authority, rest) := takeAuthority rest
  let (path, rest) := rest.span fun character => !"?#".toList.contains character
  let (query, rest) := match rest with
    | '?' :: rest => (some (rest.takeWhile (· != '#')), rest.dropWhile (· != '#'))
    | rest => (none, rest)
  let fragment := match rest with
    | '#' :: fragment => some fragment
    | _ => none
  ⟨scheme, authority, path, query, fragment⟩

/-- A user, a host and a port number as they are written. -/
def splitAuthority (authority : List Char) : List Char × List Char × List Char :=
  let behind := (authority.reverse.takeWhile (· != '@')).reverse
  let user := (authority.take (authority.length - behind.length)).dropLast
  let bracketed := (behind.reverse.dropWhile (· != ']')).reverse
  let host :=
    if behind.head? == some '[' && !bracketed.isEmpty then bracketed
    else behind.takeWhile (· != ':')
  let rest := behind.drop host.length
  (user, host, if rest.head? == some ':' then rest.drop 1 else rest)

/-- The canonical form of a host; brackets around a long address are dropped. -/
def encodeHost (host : List Char) : Except Fault (List Char) :=
  if Host.looksLikeOctets host then
    if Host.isShortAddress host then .ok host else .error .badAddress
  else if host.head? == some '[' && host.getLast? == some ']' then
    let address := (host.drop 1).dropLast
    if Host.isLongAddress address then .ok address else .error .badAddress
  else if host.all (·.toNat < 0x80) then
    .ok (percentEncode isHostSafe (host.map Char.toLower))
  else (Host.asciiName (lowercase host)).mapError fun _ => .badAddress

/-- The port numbers that schemes imply. -/
def usualPorts : List (String × Int) :=
  [("ftp", 21), ("http", 80), ("https", 443), ("ws", 80), ("wss", 443)]

/-- A port number, unless the scheme implies it. -/
def portOf (scheme port : List Char) : Except Fault (Option Int) :=
  if port.isEmpty then .ok none
  else match integer? 10 port with
    | none => .error .badAddress
    | some number =>
      if usualPorts.any fun usual => usual.1.toList == scheme && usual.2 == number then .ok none
      else .ok (some number)

/-- The pieces of a path without single dots; two dots take back the piece before them. -/
def resolveDots : List (List Char) → List (List Char) → List (List Char)
  | kept, [] => kept.reverse
  | kept, piece :: pieces =>
    if piece == ['.'] then resolveDots kept pieces
    else if piece == ['.', '.'] then
      resolveDots (if kept == [[]] then kept else kept.drop 1) pieces
    else resolveDots (piece :: kept) pieces

/-- A path without dots among its pieces. -/
def normalizePath (path : List Char) : List Char :=
  joinWith ['/'] (resolveDots [] (splitAt '/' path))

/-- The most characters of a part. -/
def longest : Nat := 65536

def isWithinLength (parts : Parts) : Bool :=
  let fits (part : List Char) := part.length ≤ longest
  fits parts.scheme && fits parts.authority && fits parts.path && parts.query.all fits &&
    parts.fragment.all fits

/-- Whether a path can stand behind a scheme and a host, or without them. -/
def isPathAllowed (hasScheme hasAuthority : Bool) (path : List Char) : Bool :=
  if hasAuthority then path.isEmpty || path.head? == some '/'
  else hasScheme || !(['/', '/'].isPrefixOf path || path.head? == some ':')

/-- The address that has some parts. -/
def ofParts (parts : Parts) : Except Fault Url := do
  if !isWithinLength parts then throw .badAddress
  let (user, host, port) := splitAuthority parts.authority
  let host ← encodeHost host
  let port ← portOf parts.scheme port
  let scheme := parts.scheme.map Char.toLower
  let user := percentEncode isUserSafe user
  let hasScheme := !scheme.isEmpty
  let hasAuthority := !user.isEmpty || !host.isEmpty || port.isSome
  if isPathAllowed hasScheme hasAuthority parts.path then
    let path := if hasScheme || hasAuthority then normalizePath parts.path else parts.path
    return ⟨scheme, user, host, port, percentEncode isPathSafe path,
      parts.query.map (percentEncode isQuerySafe),
      parts.fragment.map (percentEncode isFragmentSafe)⟩
  else throw .badAddress

private def isControl (character : Char) : Bool :=
  character.toNat < 0x20 || character.toNat == 0x7F

/-- The address that a text writes. -/
def ofText (text : String) : Except Fault Url :=
  let characters := text.toList
  if longest < characters.length || characters.any isControl then .error .badAddress
  else ofParts (split characters)

/-- A host as it is written: a long address stands in brackets. -/
def writeHost (url : Url) : List Char :=
  if url.host.contains ':' then '[' :: url.host ++ [']'] else url.host

/-- The user, host and port number of an address. -/
def authority (url : Url) : List Char :=
  (if url.user.isEmpty then [] else url.user ++ ['@']) ++ url.writeHost ++
    match url.port with
    | none => []
    | some port => ':' :: (toString port).toList

/-- The parts of an address in canonical form. -/
def parts (url : Url) : Parts :=
  ⟨url.scheme, url.authority, url.path, url.query, url.fragment⟩

/-- A part behind its mark, if it is there. -/
def marked (mark : Char) : Option (List Char) → List Char
  | none => []
  | some text => mark :: text

/-- An address as text. -/
def write (url : Url) : String :=
  let authority := url.authority
  String.ofList (
    (if url.scheme.isEmpty then [] else url.scheme ++ [':']) ++
    (if authority.isEmpty then [] else '/' :: '/' :: authority) ++
    url.path ++ marked '?' url.query ++ marked '#' url.fragment)

/-- Whether the text of an address starts with what names its kind: anything before a colon but a
slash. -/
def hasKind (url : Url) : Bool :=
  let text := url.write.toList
  let text := if "URL:".toList.isPrefixOf text then text.drop 4 else text
  let kind := text.takeWhile fun character => character != '/' && character != ':'
  !kind.isEmpty && text[kind.length]? == some ':'

/-- The name of a host is understood before it is sent to. -/
def checkHost (url : Url) : Except Fault Unit :=
  if url.host.all (·.toNat < 0x80) then (Host.checkAsciiName url.host).mapError .badHost
  else .error .badHeader

/-- The path and query of an address. -/
def target (url : Url) : List Char :=
  (if url.path.isEmpty then ['/'] else url.path) ++ marked '?' url.query

/-- The address with another path and query. -/
def withTarget (url : Url) (target : List Char) : Except Fault Url :=
  let path := target.takeWhile (· != '?')
  let query := match target.drop path.length with
    | '?' :: query => some query
    | _ => none
  ofParts { url.parts with path, query }

/-- A base address ends in a slash. -/
def asBase (url : Url) : Except Fault Url :=
  if url.target.getLast? == some '/' then .ok url else url.withTarget (url.target ++ ['/'])

/-- An address with a scheme and a host of its own. -/
def isAbsolute (url : Url) : Bool :=
  !url.scheme.isEmpty && !url.host.isEmpty

/-- An address below a base; an absolute one needs no base. -/
def below (base url : Url) : Except Fault Url :=
  if url.isAbsolute then .ok url
  else base.withTarget (base.target ++ url.target.dropWhile (· == '/'))

/-- The address with another query. -/
def withQuery (url : Url) (query : Option (List Char)) : Except Fault Url :=
  ofParts { url.parts with query }

end Url

end ApiCompiler.Wire
