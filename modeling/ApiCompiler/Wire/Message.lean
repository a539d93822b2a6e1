import ApiCompiler.Text.Uppercase
import ApiCompiler.Wire.Credentials
import ApiCompiler.Wire.Header
import ApiCompiler.Wire.Payload

/-!
# Messages

What a request looks like when it is sent: its method, its full address, its headers, and its body
with the media type that goes with it. Whatever is wrong with a request is found in a fixed order.
-/

namespace ApiCompiler.Wire

open Call (Entries entriesOf entry without)

/-- A request as it is sent. -/
structure Message where
  method : String
  url : Url
  headers : Headers
  body : List UInt8
deriving Repr

private def knownFields : List String := [
  "method", "url", "content", "data", "files", "json", "params", "headers", "cookies", "auth",
  "follow_redirects", "timeout", "extensions"]

private def isKnownField (name : Value) : Bool :=
  name.text?.any knownFields.contains

private def checkFields (request : Entries) : Except Fault Unit :=
  let isThere (name : String) := (Value.field? request name).isSome
  if request.all (isKnownField ·.1) && isThere "method" && isThere "url" then .ok ()
  else Fault.ofMisuse .wrongKind

/-- The address that a value writes. -/
def addressOf : Value → Except Fault Url
  | .str text => Url.ofText text
  | _ => Fault.ofMisuse .wrongKind

private def methodOf : Value → Except Fault String
  | .str method => .ok (Text.uppercased method)
  | _ => Fault.ofMisuse .noFields

/-- The address with the query that a request gives. -/
def withFields (url : Url) : Query → Except Fault Url
  | .keep => .ok url
  | .drop => url.withQuery none
  | .replace fields => url.withQuery (some fields.write)

private def limitsTime (extensions : Value) : Except Fault Bool :=
  let isLimit (value : Value) := value.sameKey (.str "timeout")
  match extensions with
  | .map entries => .ok (entries.any (isLimit ·.1))
  | .list items => .ok (items.any isLimit)
  | .tuple items => .ok (items.any isLimit)
  | .set members => .ok (members.any isLimit)
  | .str text => .ok ((text.splitOn "timeout").length > 1)
  | _ => Fault.ofMisuse .wrongKind

private def checkTimeout : Value → Except Fault Unit
  | .tuple [] => Fault.ofMisuse .absentItem
  | .tuple [_] => Fault.ofMisuse .absentItem
  | _ => .ok ()

private def isNamed : Value → Bool
  | .map entries => entries.all fun entry => entry.1.text?.isSome
  | _ => false

/-- Extensions that limit no time are joined by the limit that the request gives, under its name. -/
private def checkLimit (extensions timeout : Value) : Except Fault Unit := do
  checkTimeout timeout
  if isNamed extensions then return () else Fault.ofMisuse .wrongKind

private def checkHost (url : Url) (headers : Headers) : Except Fault Unit :=
  if headers.has "host" then .ok () else url.checkHost

private def signed (headers : Headers) : Option Credentials → Headers
  | none => headers
  | some credentials => headers.put "authorization" (bytesOf credentials.write)

private def labelled (headers : Headers) : Option String → Headers
  | none => headers
  | some mediaType => headers.putNew "content-type" mediaType

/-- The message that a request is sent as. -/
def Message.ofRequest (request : Entries) : Except Fault Message := do
  let base ← (← addressOf ((Value.field? request "base_url").getD (.str ""))).asBase
  let request := without (without request "base_url") "transport"
  checkFields request
  let address ← base.below (← addressOf (entry request "url"))
  let headers ← Headers.ofValue (entry request "headers")
  let cookies ← Cookies.ofValue (entry request "cookies")
  let query ← Query.ofValue (entry request "params")
  let extensions := match entry request "extensions" with
    | .null => .map []
    | extensions => extensions
  let hasLimit ← limitsTime extensions
  if !hasLimit then checkLimit extensions (entry request "timeout")
  let method ← methodOf (entry request "method")
  let url ← withFields address query
  if hasLimit then discard (Fault.lift (entriesOf extensions))
  let headers ← cookies.addTo url headers
  let payload ← Payload.ofRequest request
  checkHost url headers
  let headers := labelled headers payload.mediaType
  let headers := signed headers (← Credentials.ofValue (entry request "auth") url)
  match payload.content? with
  | none => throw .piecemealBody
  | some body => return ⟨method, url, headers, body⟩

/-- What a sender makes of the answer to a message. -/
inductive Reception where
  | accepted
  /-- A number that does not mean success. -/
  | refused
  /-- An answer from an address of no kind, for which no cookies are kept. -/
  | unread
deriving Repr, DecidableEq

/-- What a sender makes of an answer with a number. -/
def Message.receive (message : Message) (status : Int) : Reception :=
  if !message.url.hasKind then .unread
  else if 200 ≤ status && status ≤ 299 then .accepted
  else .refused

end ApiCompiler.Wire
