/-!
# UTF-8

Reading bytes as characters. Bytes that write no character are reported by their place and number,
with the reason; a character's first byte fixes how many bytes follow it and where the second one
may lie.
-/

namespace ApiCompiler.Text.Utf8

/-- Why bytes write no character. -/
inductive Cause where
  | badStart
  | badContinuation
  | cutShort
deriving Repr, DecidableEq

/-- The words for a cause. -/
def Cause.words : Cause → String
  | .badStart => "invalid start byte"
  | .badContinuation => "invalid continuation byte"
  | .cutShort => "unexpected end of data"

/-- Bytes that write no character: the bytes before them, their number, and the first of them. -/
structure Fault where
  offset : Nat
  width : Nat
  first : UInt8
  cause : Cause
deriving Repr, DecidableEq

private def hexDigit (value : Nat) : Char :=
  if value < 10 then Char.ofNat (48 + value) else Char.ofNat (87 + value)

private def hexByte (byte : UInt8) : String :=
  String.ofList ['0', 'x', hexDigit (byte.toNat / 16), hexDigit (byte.toNat % 16)]

/-- The words for a fault. -/
def Fault.message (fault : Fault) : String :=
  if fault.width = 1 then
    s!"'utf-8' codec can't decode byte {hexByte fault.first} in position {fault.offset}: " ++
      fault.cause.words
  else
    s!"'utf-8' codec can't decode bytes in position {fault.offset}-" ++
      s!"{fault.offset + fault.width - 1}: {fault.cause.words}"

/-- What the bytes read so far say about a character: its bits, the bytes that it lacks, and the
bounds of the next one. -/
structure Beginning where
  bits : Nat
  missing : Nat
  low : Nat
  high : Nat
deriving Repr, DecidableEq

/-- What a first byte says. No character starts with a continuation, has a shorter spelling, is half
of a surrogate pair or lies beyond the last code point. -/
def start? (byte : UInt8) : Option Beginning :=
  let code := byte.toNat
  if code < 0x80 then some ⟨code, 0, 0, 0⟩
  else if code < 0xC2 then none
  else if code < 0xE0 then some ⟨code % 0x20, 1, 0x80, 0xBF⟩
  else if code < 0xF0 then
    some ⟨code % 0x10, 2, if code = 0xE0 then 0xA0 else 0x80, if code = 0xED then 0x9F else 0xBF⟩
  else if code < 0xF5 then
    some ⟨code % 8, 3, if code = 0xF0 then 0x90 else 0x80, if code = 0xF4 then 0x8F else 0xBF⟩
  else none

/-- What a further byte adds. -/
def Beginning.continue? (read : Beginning) (byte : UInt8) : Option Beginning :=
  let code := byte.toNat
  if read.low ≤ code ∧ code ≤ read.high then
    some ⟨read.bits * 0x40 + code % 0x40, read.missing - 1, 0x80, 0xBF⟩
  else none

/-- A character of which bytes are missing, with its first byte and the number of those read. -/
private structure Unfinished where
  read : Beginning
  first : UInt8
  width : Nat

private def decodeFrom (offset : Nat) : Option Unfinished → List UInt8 → Except Fault (List Char)
  | none, [] => .ok []
  | some unfinished, [] => .error ⟨offset, unfinished.width, unfinished.first, .cutShort⟩
  | none, byte :: rest =>
    match start? byte with
    | none => .error ⟨offset, 1, byte, .badStart⟩
    | some ⟨bits, 0, _, _⟩ => (decodeFrom (offset + 1) none rest).map (Char.ofNat bits :: ·)
    | some read => decodeFrom offset (some ⟨read, byte, 1⟩) rest
  | some ⟨read, first, width⟩, byte :: rest =>
    match read.continue? byte with
    | none => .error ⟨offset, width, first, .badContinuation⟩
    | some ⟨bits, 0, _, _⟩ =>
      (decodeFrom (offset + width + 1) none rest).map (Char.ofNat bits :: ·)
    | some read => decodeFrom offset (some ⟨read, first, width + 1⟩) rest

/-- The characters that bytes write. -/
def decode (content : List UInt8) : Except Fault (List Char) :=
  decodeFrom 0 none content

/-- The character that stands for bytes that write none. -/
def replacement : Char := Char.ofNat 0xFFFD

/-- The characters that a first byte completes, and the one that it begins. -/
private def openWith (byte : UInt8) : List Char × Option Beginning :=
  match start? byte with
  | none => ([replacement], none)
  | some ⟨bits, 0, _, _⟩ => ([Char.ofNat bits], none)
  | some read => ([], some read)

private def goOnWith (byte : UInt8) : Option Beginning → List Char × Option Beginning
  | none => openWith byte
  | some read =>
    match read.continue? byte with
    | none => ((openWith byte).1 ++ [replacement], (openWith byte).2)
    | some ⟨bits, 0, _, _⟩ => ([Char.ofNat bits], none)
    | some read => ([], some read)

private def decodeOnto : List Char → Option Beginning → List UInt8 → List Char
  | done, none, [] => done.reverse
  | done, some _, [] => (replacement :: done).reverse
  | done, read, byte :: rest =>
    let (characters, read) := goOnWith byte read
    decodeOnto (characters ++ done) read rest

/-- The characters that bytes write; each stretch of bytes that begins no character, or leaves one
cut short, is read as the replacement. -/
def decodeLeniently (content : List UInt8) : List Char :=
  decodeOnto [] none content

end ApiCompiler.Text.Utf8
