import ApiCompiler.Text.Utf8

/-!
# Faults of files

Why a file is not read, written or made.
-/

namespace ApiCompiler.Files

/-- Why a step on files fails. -/
inductive Fault where
  /-- Nothing has this path. -/
  | absent
  /-- A name on the way is that of a file. -/
  | notDirectory
  /-- A directory, where a file is needed. -/
  | isDirectory
  /-- The path is taken. -/
  | taken
  /-- The bytes of a file write no text. -/
  | notText (fault : Text.Utf8.Fault)
  /-- A text that no bytes write, for it holds half a surrogate pair. -/
  | halved
  /-- A name, or the whole path, is too long. -/
  | tooLong
  /-- A path with a null character in it. -/
  | notPath
  /-- A directory that is needed where it is. -/
  | busy
  /-- What is there is not handed out. -/
  | denied
  /-- The device does not do what it is asked. -/
  | failed
deriving Repr, DecidableEq

/-- The words for a fault. -/
def Fault.message : Fault → String
  | .absent => "No such file or directory"
  | .notDirectory => "Not a directory"
  | .isDirectory => "Is a directory"
  | .taken => "File exists"
  | .notText fault => fault.message
  | .halved => "'utf-8' codec can't encode character: surrogates not allowed"
  | .tooLong => "File name too long"
  | .notPath => "embedded null byte"
  | .busy => "Device or resource busy"
  | .denied => "Permission denied"
  | .failed => "Input/output error"

/-- The number that the system gives a fault. What is no text or no path is found without the
system. -/
def Fault.number? : Fault → Option Nat
  | .absent => some 2
  | .failed => some 5
  | .denied => some 13
  | .busy => some 16
  | .taken => some 17
  | .notDirectory => some 20
  | .isDirectory => some 21
  | .tooLong => some 36
  | .notText _ => none
  | .halved => none
  | .notPath => none

/-- The words for a fault with its number, if it has one. -/
def Fault.numbered (fault : Fault) : String :=
  match fault.number? with
  | some number => s!"[Errno {number}] {fault.message}"
  | none => fault.message

end ApiCompiler.Files
