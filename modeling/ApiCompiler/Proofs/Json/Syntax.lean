import ApiCompiler.Json.Reader
import ApiCompiler.Proofs.Outcome
import ApiCompiler.Proofs.Value.Entries
import Mathlib.Data.Bool.AllAny
import Mathlib.Data.List.TakeWhile
import Mathlib.Tactic.Common

/-!
# JSON as it is written

The syntax of JSON texts: values with the blanks, the digits and the escapes that write them. A
syntax has a text and a value. Every text that is read is that of a syntax, whose value is what is
read.
-/

namespace ApiCompiler.Json

open Outcome Text

/-- Blanks between tokens. -/
structure Blank where
  text : List Char
  spaces : ∀ character ∈ text, isSpace character = true

theorem Blank.exists_of_skipSpace {text rest : List Char} (skipped : skipSpace text = rest) :
    ∃ blank : Blank, text = blank.text ++ rest := by
  refine ⟨⟨text.takeWhile isSpace, fun _ member => List.mem_takeWhile_imp member⟩, ?_⟩
  rw [← skipped]
  exact List.takeWhile_append_dropWhile.symm

/-- Four hexadecimal digits and the number that they write. -/
structure Code where
  first : Char
  second : Char
  third : Char
  fourth : Char
  number : Nat
  writes : code? first second third fourth = some number

def Code.text (code : Code) : List Char :=
  ['\\', 'u', code.first, code.second, code.third, code.fourth]

/-- A character of a string as it is written: plain, behind a backslash, by its code, or by the
codes of two surrogates. -/
inductive Piece where
  | plain (character : Char) (printed : 0x1F < character.toNat) (unquoted : character ≠ '"')
      (unescaped : character ≠ '\\')
  | escape (letter character : Char) (names : escape? letter = some character)
  | code (written : Code)
  | pair (high low : Code) (isHigh : isHighSurrogate high.number = true)
      (isLow : isLowSurrogate low.number = true)

def Piece.text : Piece → List Char
  | .plain character _ _ _ => [character]
  | .escape letter _ _ => ['\\', letter]
  | .code written => written.text
  | .pair high low _ _ => high.text ++ low.text

def Piece.character [Spares] : Piece → Char
  | .plain character _ _ _ => character
  | .escape _ character _ => character
  | .code written => characterOf written.number
  | .pair high low _ _ => joinSurrogates high.number low.number

/-- What stands between the quotes of a string. -/
def rawText (pieces : List Piece) : List Char :=
  pieces.flatMap Piece.text

/-- The text of a string. -/
def contentOf [Spares] (pieces : List Piece) : List Char :=
  pieces.map Piece.character

/-- An exponent as it is written: its sign, if it has one, tells whether it is below zero. -/
structure Exponent where
  mark : Char
  sign : Option Bool
  digits : List Char
  marked : mark = 'e' ∨ mark = 'E'
  filled : digits ≠ []
  isDigits : ∀ digit ∈ digits, isDigit digit = true

def signText : Option Bool → List Char
  | none => []
  | some false => ['+']
  | some true => ['-']

def Exponent.text (exponent : Exponent) : List Char :=
  exponent.mark :: (signText exponent.sign ++ exponent.digits)

/-- The number that digits write. -/
def numberOf (digits : List Char) : Nat :=
  digitsValue 10 (digitValues digits)

def Exponent.size (exponent : Exponent) : Int :=
  if exponent.sign = some true then -(numberOf exponent.digits : Int) else numberOf exponent.digits

/-- A number as it is written; where nothing stands behind its point, it has none. -/
structure Numeral where
  negative : Bool
  whole : List Char
  fraction : List Char
  exponent : Option Exponent
  filled : whole ≠ []
  bare : whole.head? = some '0' → whole = ['0']
  isDigits : ∀ digit ∈ whole ++ fraction, isDigit digit = true

namespace Numeral

def fractionText (fraction : List Char) : List Char :=
  if fraction.isEmpty then [] else '.' :: fraction

def text (numeral : Numeral) : List Char :=
  (if numeral.negative then ['-'] else []) ++ numeral.whole ++ fractionText numeral.fraction ++
    (numeral.exponent.map Exponent.text).getD []

/-- The digits of a number as a whole one. -/
def coefficient (numeral : Numeral) : Nat :=
  numberOf (numeral.whole ++ numeral.fraction)

/-- A number without point and exponent is whole. -/
def value (numeral : Numeral) : Value :=
  match numeral.exponent with
  | some exponent =>
    .float
      (.ofDecimal numeral.negative numeral.coefficient (exponent.size - numeral.fraction.length))
  | none =>
    if numeral.fraction.isEmpty then
      .int (if numeral.negative then -(numeral.coefficient : Int) else numeral.coefficient)
    else .float (.ofDecimal numeral.negative numeral.coefficient (-numeral.fraction.length))

end Numeral

mutual

/-- A value as it is written. -/
inductive Syntax where
  | word (name : String) (value : Value) (named : (name, value) ∈ namedValues)
  | number (numeral : Numeral)
  | string (pieces : List Piece)
  | emptyArray (blank : Blank)
  | array (blank : Blank) (items : Items)
  | emptyObject (blank : Blank)
  | object (blank : Blank) (entries : Entries)

/-- The items of an array and its closing bracket. -/
inductive Items where
  | last (item : Syntax) (blank : Blank)
  | more (item : Syntax) (before after : Blank) (items : Items)

/-- The entries of an object and its closing brace. -/
inductive Entries where
  | last (key : List Piece) (before after : Blank) (value : Syntax) (blank : Blank)
  | more (key : List Piece) (before after : Blank) (value : Syntax) (blank next : Blank)
      (entries : Entries)

end

def quoted (pieces : List Piece) : List Char :=
  '"' :: (rawText pieces ++ ['"'])

mutual

def Syntax.text : Syntax → List Char
  | .word name _ _ => name.toList
  | .number numeral => numeral.text
  | .string pieces => quoted pieces
  | .emptyArray blank => '[' :: (blank.text ++ [']'])
  | .array blank items => '[' :: (blank.text ++ items.text)
  | .emptyObject blank => '\x7b' :: (blank.text ++ ['\x7d'])
  | .object blank entries => '\x7b' :: (blank.text ++ entries.text)

def Items.text : Items → List Char
  | .last item blank => item.text ++ blank.text ++ [']']
  | .more item before after items =>
    item.text ++ before.text ++ ',' :: (after.text ++ items.text)

def Entries.text : Entries → List Char
  | .last key before after value blank =>
    quoted key ++ before.text ++ ':' :: (after.text ++ value.text ++ blank.text ++ ['\x7d'])
  | .more key before after value blank next entries =>
    quoted key ++ before.text ++
      ':' :: (after.text ++ value.text ++ blank.text ++ ',' :: (next.text ++ entries.text))

end

/-- The text that a key or a text of a document is. -/
def textValue [Spares] (pieces : List Piece) : Value :=
  .str (String.ofList (contentOf pieces))

mutual

def Syntax.value [Spares] : Syntax → Value
  | .word _ value _ => value
  | .number numeral => numeral.value
  | .string pieces => textValue pieces
  | .emptyArray _ => .list []
  | .array _ items => .list items.values
  | .emptyObject _ => .map []
  | .object _ entries => .map (Value.ofEntries entries.entries)

def Items.values [Spares] : Items → List Value
  | .last item _ => [item.value]
  | .more item _ _ items => item.value :: items.values

/-- The entries in their order; a key may come repeatedly. -/
def Entries.entries [Spares] : Entries → List (Value × Value)
  | .last key _ _ value _ => [(textValue key, value.value)]
  | .more key _ _ value _ _ entries => (textValue key, value.value) :: entries.entries

end

/-! ## Texts that are read -/

variable {text rest : List Char} {fuel : Nat}

theorem prepend_eq_ok_iff {character : Char} {reading : Reading (List Char)} {content : List Char} :
    prepend character reading = .ok (content, rest) ↔
      ∃ others, reading = .ok (others, rest) ∧ content = character :: others := by
  obtain fault | ⟨others, behind⟩ := reading
  · simp [prepend]
  · simp only [prepend, Except.ok.injEq, Prod.mk.injEq]
    constructor
    · rintro ⟨rfl, rfl⟩
      exact ⟨others, ⟨rfl, rfl⟩, rfl⟩
    · rintro ⟨_, ⟨rfl, rfl⟩, rfl⟩
      exact ⟨rfl, rfl⟩

/-- A string goes on behind a piece as it goes on without it. -/
theorem exists_pieces_cons [Spares] (piece : Piece) {after content : List Char}
    (behind : ∃ pieces, after = rawText pieces ++ '"' :: rest ∧ contentOf pieces = content) :
    ∃ pieces, piece.text ++ after = rawText pieces ++ '"' :: rest ∧
      contentOf pieces = piece.character :: content := by
  obtain ⟨pieces, rfl, rfl⟩ := behind
  exact ⟨piece :: pieces, by simp [rawText], rfl⟩

/-- A string that is read is written piece by piece. -/
theorem exists_pieces_of_readString [Spares] {opening : Nat} {content : List Char}
    (read : readString opening text = .ok (content, rest)) :
    ∃ pieces, text = rawText pieces ++ '"' :: rest ∧ contentOf pieces = content := by
  fun_induction readString opening text generalizing content rest with
  | case1 => contradiction
  | case2 behind =>
      obtain ⟨rfl, rfl⟩ := Prod.mk.inj (Except.ok.inj read)
      exact ⟨[], rfl, rfl⟩
  | case3 => contradiction
  | case4 => contradiction
  | case5 => contradiction
  | case6 a b c d next high writesHigh isHigh e f g h after behind low writesLow isLow induction =>
      obtain ⟨others, reading, rfl⟩ := prepend_eq_ok_iff.mp read
      rw [Bool.and_eq_true, beq_iff_eq] at isHigh
      obtain ⟨isHigh, rfl⟩ := isHigh
      exact exists_pieces_cons (.pair ⟨a, b, c, d, high, writesHigh⟩ ⟨e, f, g, h, low, writesLow⟩
        isHigh isLow) (induction reading)
  | case7 a b c d next high writes isHigh e f g h after behind low _ _ induction =>
      obtain ⟨others, reading, rfl⟩ := prepend_eq_ok_iff.mp read
      rw [Bool.and_eq_true, beq_iff_eq] at isHigh
      obtain ⟨-, rfl⟩ := isHigh
      exact exists_pieces_cons (.code ⟨a, b, c, d, high, writes⟩) (induction reading)
  | case8 a b c d next high writes _ behind _ induction =>
      obtain ⟨others, reading, rfl⟩ := prepend_eq_ok_iff.mp read
      exact exists_pieces_cons (.code ⟨a, b, c, d, high, writes⟩) (induction reading)
  | case9 a b c d next behind code writes _ induction =>
      obtain ⟨others, reading, rfl⟩ := prepend_eq_ok_iff.mp read
      exact exists_pieces_cons (.code ⟨a, b, c, d, code, writes⟩) (induction reading)
  | case10 => contradiction
  | case11 letter behind _ _ character names induction =>
      obtain ⟨others, reading, rfl⟩ := prepend_eq_ok_iff.mp read
      exact exists_pieces_cons (.escape letter character names) (induction reading)
  | case12 => contradiction
  | case13 => contradiction
  | case14 character behind unquoted atEnd _ _ escapes printed induction =>
      obtain ⟨others, reading, rfl⟩ := prepend_eq_ok_iff.mp read
      have unescaped : character ≠ '\\' := by
        rintro rfl
        cases behind with
        | nil => exact atEnd rfl rfl
        | cons letter after => exact escapes letter after rfl rfl
      exact exists_pieces_cons (.plain character (by omega) unquoted unescaped) (induction reading)

theorem forall_takeWhile_isDigit (text : List Char) :
    ∀ digit ∈ text.takeWhile isDigit, isDigit digit = true :=
  fun _ member => List.mem_takeWhile_imp member

theorem takeWhile_isDigit_ne_nil {text : List Char} (first : text.head?.any isDigit = true) :
    text.takeWhile isDigit ≠ [] := by
  cases text with
  | nil => contradiction
  | cons digit rest =>
      rw [List.head?_cons, Option.any_some] at first
      simp [first]

/-- The whole part of a number is a zero alone, or starts with no zero. -/
theorem takeWhole_eq_some {whole : List Char} (taken : takeWhole text = some (whole, rest)) :
    text = whole ++ rest ∧ whole ≠ [] ∧ (whole.head? = some '0' → whole = ['0']) ∧
      ∀ digit ∈ whole, isDigit digit = true := by
  unfold takeWhole at taken
  split at taken
  · obtain ⟨rfl, rfl⟩ := Prod.mk.inj (Option.some.inj taken)
    exact ⟨rfl, by simp, fun _ => rfl, List.all_iff_forall_prop.mp (by decide)⟩
  · rename_i other
    split at taken
    · rename_i first
      obtain ⟨rfl, rfl⟩ := Prod.mk.inj (Option.some.inj taken)
      refine ⟨List.takeWhile_append_dropWhile.symm, takeWhile_isDigit_ne_nil first, fun zero => ?_,
        forall_takeWhile_isDigit text⟩
      cases text with
      | nil => contradiction
      | cons digit behind =>
          rw [List.head?_cons, Option.any_some] at first
          rw [List.takeWhile_cons_of_pos first, List.head?_cons, Option.some.injEq] at zero
          exact absurd rfl (zero ▸ other behind)
    · contradiction

theorem takeFraction_eq {fraction : List Char} (taken : takeFraction text = (fraction, rest)) :
    text = Numeral.fractionText fraction ++ rest ∧ ∀ digit ∈ fraction, isDigit digit = true := by
  unfold takeFraction at taken
  split at taken
  · rename_i behind
    split at taken
    · rename_i first
      obtain ⟨rfl, rfl⟩ := Prod.mk.inj taken
      have filled := takeWhile_isDigit_ne_nil first
      refine ⟨?_, forall_takeWhile_isDigit behind⟩
      rw [Numeral.fractionText, if_neg (by simpa using filled), List.cons_append,
        List.takeWhile_append_dropWhile]
    · obtain ⟨rfl, rfl⟩ := Prod.mk.inj taken
      exact ⟨rfl, by simp⟩
  · obtain ⟨rfl, rfl⟩ := Prod.mk.inj taken
    exact ⟨rfl, by simp⟩

theorem takeSign_eq (text : List Char) :
    ∃ sign, text = signText sign ++ (takeSign text).2 ∧
      (takeSign text).1 = decide (sign = some true) := by
  unfold takeSign
  split
  · exact ⟨some true, rfl, rfl⟩
  · exact ⟨some false, rfl, rfl⟩
  · exact ⟨none, rfl, rfl⟩

theorem exists_exponent_of_takeExponent {power : Int}
    (taken : takeExponent text = some (power, rest)) :
    ∃ exponent : Exponent, text = exponent.text ++ rest ∧ exponent.size = power := by
  cases text with
  | nil => contradiction
  | cons mark behind =>
      rw [takeExponent] at taken
      split at taken
      · rename_i marked
        obtain ⟨sign, written, negative⟩ := takeSign_eq behind
        generalize takeSign behind = signed at taken written negative
        obtain ⟨negative, unsigned⟩ := signed
        dsimp only at taken written negative
        split at taken
        · rename_i first
          obtain ⟨rfl, rfl⟩ := Prod.mk.inj (Option.some.inj taken)
          refine ⟨⟨mark, sign, unsigned.takeWhile isDigit, by
            simpa using marked, takeWhile_isDigit_ne_nil first,
            forall_takeWhile_isDigit unsigned⟩, ?_, ?_⟩
          · rw [Exponent.text, List.cons_append, List.append_assoc, List.takeWhile_append_dropWhile,
              ← written]
          · subst negative
            simp [Exponent.size, numberOf]
        · contradiction
      · contradiction

theorem exists_numeral_of_readUnsigned {negative : Bool} {unsigned : List Char} {value : Value}
    (read : readUnsigned text negative unsigned = .ok (value, rest)) :
    ∃ numeral : Numeral, (if negative then ['-'] else []) ++ unsigned = numeral.text ++ rest ∧
      numeral.value = value := by
  unfold readUnsigned at read
  split at read
  · contradiction
  · rename_i whole behind taken
    obtain ⟨rfl, filled, bare, wholeDigits⟩ := takeWhole_eq_some taken
    obtain ⟨fraction, after, fractionTaken⟩ : ∃ fraction after,
        takeFraction behind = (fraction, after) := ⟨_, _, rfl⟩
    obtain ⟨rfl, fractionDigits⟩ := takeFraction_eq fractionTaken
    rw [fractionTaken] at read
    dsimp only at read
    have isDigits := List.forall_mem_append.mpr ⟨wholeDigits, fractionDigits⟩
    split at read
    · rename_i power last exponentTaken
      obtain ⟨exponent, rfl, rfl⟩ := exists_exponent_of_takeExponent exponentTaken
      obtain ⟨rfl, rfl⟩ := Prod.mk.inj (Except.ok.inj read)
      exact ⟨⟨negative, whole, fraction, some exponent, filled, bare, isDigits⟩,
        by simp [Numeral.text], rfl⟩
    · refine ⟨⟨negative, whole, fraction, none, filled, bare, isDigits⟩, ?_⟩
      split at read
      · rename_i isWhole
        split at read
        · contradiction
        · obtain ⟨rfl, rfl⟩ := Prod.mk.inj (Except.ok.inj read)
          exact ⟨by simp [Numeral.text], if_pos isWhole⟩
      · rename_i isReal
        obtain ⟨rfl, rfl⟩ := Prod.mk.inj (Except.ok.inj read)
        exact ⟨by simp [Numeral.text], if_neg isReal⟩

/-- A number that is read is written by its numeral. -/
theorem exists_numeral_of_readNumber {value : Value} (read : readNumber text = .ok (value, rest)) :
    ∃ numeral : Numeral, text = numeral.text ++ rest ∧ numeral.value = value := by
  unfold readNumber at read
  split at read
  · exact exists_numeral_of_readUnsigned read
  · exact exists_numeral_of_readUnsigned read

/-- What is read of a value, of items and of entries is written by some syntax. -/
structure Wrote [Spares] (fuel : Nat) : Prop where
  value : ∀ {text value rest}, readValue fuel text = .ok (value, rest) →
    ∃ written : Syntax, text = written.text ++ rest ∧ written.value = value
  items : ∀ {text values rest}, readItems fuel text = .ok (values, rest) →
    ∃ written : Items, text = written.text ++ rest ∧ written.values = values
  entries : ∀ {text entries rest}, readEntries fuel text = .ok (entries, rest) →
    ∃ written : Entries, text = written.text ++ rest ∧ written.entries = entries

theorem exists_word_of_takeNamed {value : Value} (taken : takeNamed text = some (value, rest)) :
    ∃ name, ∃ _named : (name, value) ∈ namedValues, text = name.toList ++ rest := by
  obtain ⟨before, ⟨name, held⟩, after, listed, found, -⟩ := List.findSome?_eq_some_iff.mp taken
  dsimp only at found
  split at found
  · rename_i start
    obtain ⟨rfl, rfl⟩ := Prod.mk.inj (Option.some.inj found)
    refine ⟨name, by rw [listed]; simp, ?_⟩
    obtain ⟨behind, rfl⟩ := List.isPrefixOf_iff_prefix.mp start
    rw [← String.length_toList, List.drop_left]
  · contradiction

section Step

variable [Spares] (shallower : Wrote fuel)

include shallower

theorem exists_syntax_of_readValue {value : Value}
    (read : readValue (fuel + 1) text = .ok (value, rest)) :
    ∃ written : Syntax, text = written.text ++ rest ∧ written.value = value := by
  unfold readValue at read
  split at read
  · split at read
    · rename_i reading
      obtain ⟨pieces, rfl, rfl⟩ := exists_pieces_of_readString reading
      obtain ⟨rfl, rfl⟩ := Prod.mk.inj (Except.ok.inj read)
      exact ⟨.string pieces, by simp [Syntax.text, quoted], rfl⟩
    · contradiction
  · split at read
    · rename_i skipped
      obtain ⟨blank, rfl⟩ := Blank.exists_of_skipSpace skipped
      obtain ⟨rfl, rfl⟩ := Prod.mk.inj (Except.ok.inj read)
      exact ⟨.emptyObject blank, by simp [Syntax.text], rfl⟩
    · split at read
      · rename_i reading
        obtain ⟨entries, opened, rfl⟩ := shallower.entries reading
        obtain ⟨blank, rfl⟩ := Blank.exists_of_skipSpace opened
        obtain ⟨rfl, rfl⟩ := Prod.mk.inj (Except.ok.inj read)
        exact ⟨.object blank entries, by simp [Syntax.text], rfl⟩
      · contradiction
  · split at read
    · rename_i skipped
      obtain ⟨blank, rfl⟩ := Blank.exists_of_skipSpace skipped
      obtain ⟨rfl, rfl⟩ := Prod.mk.inj (Except.ok.inj read)
      exact ⟨.emptyArray blank, by simp [Syntax.text], rfl⟩
    · split at read
      · rename_i reading
        obtain ⟨items, opened, rfl⟩ := shallower.items reading
        obtain ⟨blank, rfl⟩ := Blank.exists_of_skipSpace opened
        obtain ⟨rfl, rfl⟩ := Prod.mk.inj (Except.ok.inj read)
        exact ⟨.array blank items, by simp [Syntax.text], rfl⟩
      · contradiction
  · split at read
    · rename_i taken
      obtain ⟨name, named, rfl⟩ := exists_word_of_takeNamed taken
      obtain ⟨rfl, rfl⟩ := Prod.mk.inj (Except.ok.inj read)
      exact ⟨.word name _ named, rfl, rfl⟩
    · obtain ⟨numeral, rfl, rfl⟩ := exists_numeral_of_readNumber read
      exact ⟨.number numeral, rfl, rfl⟩

theorem exists_items_of_readItems {values : List Value}
    (read : readItems (fuel + 1) text = .ok (values, rest)) :
    ∃ written : Items, text = written.text ++ rest ∧ written.values = values := by
  unfold readItems at read
  split at read
  · contradiction
  · rename_i reading
    obtain ⟨item, rfl, rfl⟩ := shallower.value reading
    split at read
    · rename_i skipped
      obtain ⟨blank, rfl⟩ := Blank.exists_of_skipSpace skipped
      obtain ⟨rfl, rfl⟩ := Prod.mk.inj (Except.ok.inj read)
      exact ⟨.last item blank, by simp [Items.text], rfl⟩
    · rename_i skipped
      obtain ⟨before, rfl⟩ := Blank.exists_of_skipSpace skipped
      split at read
      · rename_i reading
        obtain ⟨items, opened, rfl⟩ := shallower.items reading
        obtain ⟨after, rfl⟩ := Blank.exists_of_skipSpace opened
        obtain ⟨rfl, rfl⟩ := Prod.mk.inj (Except.ok.inj read)
        exact ⟨.more item before after items, by simp [Items.text], rfl⟩
      · contradiction
    · contradiction

theorem exists_entries_of_readEntries {entries : List (Value × Value)}
    (read : readEntries (fuel + 1) text = .ok (entries, rest)) :
    ∃ written : Entries, text = written.text ++ rest ∧ written.entries = entries := by
  unfold readEntries at read
  split at read
  · split at read
    · contradiction
    · rename_i reading
      obtain ⟨key, rfl, rfl⟩ := exists_pieces_of_readString reading
      split at read
      · rename_i skipped
        obtain ⟨before, rfl⟩ := Blank.exists_of_skipSpace skipped
        split at read
        · contradiction
        · rename_i reading
          obtain ⟨value, opened, rfl⟩ := shallower.value reading
          obtain ⟨after, rfl⟩ := Blank.exists_of_skipSpace opened
          dsimp only at read
          split at read
          · rename_i closed
            obtain ⟨blank, rfl⟩ := Blank.exists_of_skipSpace closed
            obtain ⟨rfl, rfl⟩ := Prod.mk.inj (Except.ok.inj read)
            exact ⟨.last key before after value blank, by simp [Entries.text, quoted], rfl⟩
          · rename_i closed
            obtain ⟨blank, rfl⟩ := Blank.exists_of_skipSpace closed
            split at read
            · rename_i reading
              obtain ⟨entries, following, rfl⟩ := shallower.entries reading
              obtain ⟨next, rfl⟩ := Blank.exists_of_skipSpace following
              obtain ⟨rfl, rfl⟩ := Prod.mk.inj (Except.ok.inj read)
              exact ⟨.more key before after value blank next entries,
                by simp [Entries.text, quoted], rfl⟩
            · contradiction
          · contradiction
      · contradiction
  · contradiction

end Step

theorem wrote [Spares] (fuel : Nat) : Wrote fuel := by
  induction fuel with
  | zero => exact ⟨nofun, nofun, nofun⟩
  | succ fuel induction =>
      exact ⟨exists_syntax_of_readValue induction, exists_items_of_readItems induction,
        exists_entries_of_readEntries induction⟩

/-- Every text that is read is that of a syntax, between blanks, whose value is what is read. -/
theorem exists_syntax_of_readText [Spares] {value : Value} (read : readText text = .ok value) :
    ∃ (before after : Blank) (written : Syntax), text = before.text ++ written.text ++ after.text ∧
      written.value = value := by
  unfold readText at read
  split at read
  · contradiction
  · split at read
    · contradiction
    · rename_i reading
      obtain ⟨written, opened, rfl⟩ := (wrote _).value reading
      obtain ⟨before, rfl⟩ := Blank.exists_of_skipSpace opened
      split at read
      · rename_i closed
        obtain ⟨after, rfl⟩ := Blank.exists_of_skipSpace closed
        exact ⟨before, after, written, by simp, Except.ok.inj read⟩
      · contradiction

/-- Values of the kinds that JSON has. The keys of a mapping are texts. -/
inductive Plain : Value → Prop where
  | null : Plain .null
  | bool (value : Bool) : Plain (.bool value)
  | int (value : Int) : Plain (.int value)
  | float (value : Binary64) : Plain (.float value)
  | str (text : String) : Plain (.str text)
  | list {items : List Value} (each : ∀ item ∈ items, Plain item) : Plain (.list items)
  | map {entries : List (Value × Value)} (names : ∀ entry ∈ entries, ∃ name, entry.1 = .str name)
      (each : ∀ entry ∈ entries, Plain entry.2) : Plain (.map entries)

theorem plain_of_mem_namedValues {name : String} {value : Value}
    (named : (name, value) ∈ namedValues) : Plain value := by
  simp only [namedValues, List.mem_cons, Prod.mk.injEq, List.not_mem_nil, or_false] at named
  obtain ⟨-, rfl⟩ | ⟨-, rfl⟩ | ⟨-, rfl⟩ | ⟨-, rfl⟩ | ⟨-, rfl⟩ | ⟨-, rfl⟩ := named
  · exact .null
  · exact .bool true
  · exact .bool false
  all_goals exact .float _

theorem Numeral.plain_value (numeral : Numeral) : Plain numeral.value := by
  unfold Numeral.value
  split
  · exact .float _
  · split
    · exact .int _
    · exact .float _

mutual

theorem Syntax.plain_value [Spares] : ∀ written : Syntax, Plain written.value
  | .word _ _ named => plain_of_mem_namedValues named
  | .number numeral => numeral.plain_value
  | .string _ => .str _
  | .emptyArray _ => .list nofun
  | .array _ items => .list items.plain_values
  | .emptyObject _ => .map nofun nofun
  | .object _ entries =>
    have each := Value.forall_mem_ofEntries (fun key => ∃ name, key = .str name) Plain
      entries.plain_entries
    .map (fun entry member => (each entry member).1) (fun entry member => (each entry member).2)

theorem Items.plain_values [Spares] : ∀ written : Items, ∀ item ∈ written.values, Plain item
  | .last item _ => List.forall_mem_singleton.mpr item.plain_value
  | .more item _ _ items => List.forall_mem_cons.mpr ⟨item.plain_value, items.plain_values⟩

theorem Entries.plain_entries [Spares] : ∀ written : Entries,
    ∀ entry ∈ written.entries, (∃ name, entry.1 = .str name) ∧ Plain entry.2
  | .last _ _ _ value _ => List.forall_mem_singleton.mpr ⟨⟨_, rfl⟩, value.plain_value⟩
  | .more _ _ _ value _ _ entries =>
    List.forall_mem_cons.mpr ⟨⟨⟨_, rfl⟩, value.plain_value⟩, entries.plain_entries⟩

end

theorem plain_of_read [Spares] {text : String} {value : Value} (reads : read text = .ok value) :
    Plain value := by
  obtain ⟨_, _, written, -, rfl⟩ := exists_syntax_of_readText (mapError_eq_ok.mp reads)
  exact written.plain_value

end ApiCompiler.Json
