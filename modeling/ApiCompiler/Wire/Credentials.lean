import ApiCompiler.Text.Base64
import ApiCompiler.Value
import ApiCompiler.Wire.Fault
import ApiCompiler.Wire.Percent
import ApiCompiler.Wire.Url

/-!
# Credentials

The name and password that a request is signed with: those that it is given, or else those of its
address.
-/

namespace ApiCompiler.Wire

/-- A name and a password. -/
structure Credentials where
  user : List UInt8
  password : List UInt8
deriving Repr, DecidableEq

namespace Credentials

/-- The name and password in an address. -/
def ofUrl (url : Url) : Option Credentials :=
  let user := url.user.takeWhile (· != ':')
  let read (text : List Char) := bytesOf (String.ofList (percentDecode text))
  let credentials := ⟨read user, read (url.user.drop (user.length + 1))⟩
  if credentials.user.isEmpty && credentials.password.isEmpty then none else some credentials

private def wordOf : Value → Except Fault (List UInt8)
  | .str text => .ok (bytesOf text)
  | .bytes content => .ok content
  | _ => Fault.ofMisuse .wrongKind

/-- The name and password that a request to an address is signed with. -/
def ofValue (auth : Value) (url : Url) : Except Fault (Option Credentials) :=
  match auth with
  | .null => .ok (ofUrl url)
  | .tuple (user :: password :: _) => do return some ⟨← wordOf user, ← wordOf password⟩
  | .tuple _ => Fault.ofMisuse .absentItem
  | _ => Fault.ofMisuse .wrongKind

/-- The value of the header that carries a name and password. -/
def write (credentials : Credentials) : String :=
  "Basic " ++ String.ofList
    (Text.writeBase64 (credentials.user ++ ':'.toUInt8 :: credentials.password))

end Credentials

end ApiCompiler.Wire
