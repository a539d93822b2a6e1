import ApiCompiler.Call.Mapping
import ApiCompiler.Json.Printer
import ApiCompiler.Wire.Query

/-!
# Bodies

The body of a request: raw content, a form, or JSON.
-/

namespace ApiCompiler.Wire

open Call (Entries entry)

/-- The bytes of a body, unless they come piece by piece, and the media type that they are sent as
if nothing else is said. -/
structure Payload where
  content? : Option (List UInt8)
  mediaType : Option String
deriving Repr, DecidableEq

namespace Payload

private def ofBytes (content : List UInt8) (mediaType : Option String) : Payload :=
  ⟨some content, mediaType⟩

private def ofContent : Value → Except Fault Payload
  | .str text => .ok (.ofBytes (bytesOf text) none)
  | .bytes content => .ok (.ofBytes content none)
  | .list _ => .ok ⟨none, none⟩
  | .tuple _ => .ok ⟨none, none⟩
  | .set _ => .ok ⟨none, none⟩
  | _ => Fault.ofMisuse .wrongKind

private def formName : Value → Except Fault (List UInt8)
  | .bytes name => .ok name
  | name => do return bytesOf (← Fault.lift name.shown)

private def ofForm (fields : Entries) : Except Fault Payload := do
  let rows ← fields.mapM fun (name, value) => do
    let name ← formName name
    (formValues value).mapM fun value => do return (name, ← formText value)
  let form := writeForm rows.flatten
  return .ofBytes (bytesOf (String.ofList form)) (some "application/x-www-form-urlencoded")

private def ofJson : Value → Except Fault Payload
  | .null => .ok (.ofBytes [] none)
  | value => do
    let text ← Fault.lift (Json.print Json.Format.compact value)
    return .ofBytes (bytesOf text) (some "application/json")

/-- The body of a request: raw content, a form, or JSON, the first of them that is given. -/
def ofRequest (request : Entries) : Except Fault Payload :=
  match entry request "content", entry request "data" with
  | content, .map fields =>
    match content with
    | .null => if fields.isEmpty then ofJson (entry request "json") else ofForm fields
    | content => ofContent content
  | .null, .null => ofJson (entry request "json")
  | content, .null => ofContent content
  | _, data => ofContent data

end Payload

end ApiCompiler.Wire
