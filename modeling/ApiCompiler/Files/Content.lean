import ApiCompiler.Files.Fault
import ApiCompiler.Text.Lines

/-!
# Contents of files

What a file holds, and how it reads as text: every line end reads as a line feed. What a file holds
may also be withheld from those who would read it.
-/

namespace ApiCompiler.Files

/-- What a file holds: a text as it was written, or bytes. -/
inductive Content where
  | text (text : String)
  | bytes (content : List UInt8)
  /-- Bytes that are there, but are not handed out. -/
  | withheld (content : List UInt8)
deriving Repr, DecidableEq

namespace Content

/-- The text with all its line ends read as line feeds. -/
def readText (text : String) : String :=
  String.ofList (Text.normalizeNewlines text.toList)

/-- The text that a file reads as. -/
def read : Content → Except Fault String
  | .text written => .ok (readText written)
  | .bytes content =>
    match Text.Utf8.decode content with
    | .ok characters => .ok (String.ofList (Text.normalizeNewlines characters))
    | .error fault => .error (.notText fault)
  | .withheld _ => .error .denied

@[simp] theorem read_text (written : String) :
    (Content.text written).read = .ok (readText written) := rfl

end Content

end ApiCompiler.Files
