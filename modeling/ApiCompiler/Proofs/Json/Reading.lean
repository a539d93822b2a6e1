import ApiCompiler.Proofs.Json.Syntax
import ApiCompiler.Yaml.Tokens

/-!
# Reading what is written as JSON

The text of a syntax is read to the value of the syntax, whatever may stand behind a value, where no
code of a string is one of two surrogates and no whole number has more digits than are read.

Not all JSON is YAML. Between tokens YAML takes no tabs. A key and its colon stand on one line, at
most 1024 characters long. Line separators inside of quotes are folded, some characters are refused,
and the codes of a surrogate pair stay two halves. What keeps to these bounds is portable, whatever
its numbers look like.
-/

namespace ApiCompiler.Json

open Text

/-- No blank at all. -/
def Blank.none : Blank :=
  ⟨[], List.forall_mem_nil _⟩

@[simp]
theorem Blank.text_none : Blank.none.text = [] :=
  rfl

/-- Characters, escapes, and codes of characters on their own. -/
def Piece.Readable : Piece → Prop
  | .code written => isHighSurrogate written.number = false ∧ isLowSurrogate written.number = false
  | .pair _ _ _ _ => False
  | _ => True

/-- What stands between quotes. -/
def ReadableString (pieces : List Piece) : Prop :=
  ∀ piece ∈ pieces, piece.Readable

/-- A whole number has no more digits than are read. -/
def Numeral.Readable (numeral : Numeral) : Prop :=
  numeral.exponent = none → numeral.fraction = [] → numeral.whole.length ≤ numeralLimit

mutual

/-- A value whose strings and numbers are all readable. -/
def Syntax.Readable : Syntax → Prop
  | .word _ _ _ => True
  | .number numeral => numeral.Readable
  | .string pieces => ReadableString pieces
  | .emptyArray _ => True
  | .array _ items => items.Readable
  | .emptyObject _ => True
  | .object _ entries => entries.Readable

def Items.Readable : Items → Prop
  | .last item _ => item.Readable
  | .more item _ _ items => item.Readable ∧ items.Readable

def Entries.Readable : Entries → Prop
  | .last key _ _ value _ => ReadableString key ∧ value.Readable
  | .more key _ _ value _ _ entries => ReadableString key ∧ value.Readable ∧ entries.Readable

end

/-- The characters that values begin with. -/
def opens (character : Char) : Bool :=
  isDigit character || "\"[\x7b-ntfNI".toList.contains character

theorem Numeral.exists_text_eq_cons (numeral : Numeral) :
    ∃ first rest, numeral.text = first :: rest ∧ (isDigit first = true ∨ first = '-') := by
  unfold Numeral.text
  cases numeral.negative with
  | true => exact ⟨'-', _, rfl, .inr rfl⟩
  | false =>
      obtain ⟨first, rest, whole⟩ := List.exists_cons_of_ne_nil numeral.filled
      refine ⟨first, _, by rw [whole]; rfl, .inl (numeral.isDigits first ?_)⟩
      simp [whole]

theorem Syntax.exists_text_eq_cons (written : Syntax) :
    ∃ first rest, written.text = first :: rest ∧ opens first = true := by
  cases written with
  | word name value named =>
      simp only [namedValues, List.mem_cons, Prod.mk.injEq, List.not_mem_nil, or_false] at named
      obtain ⟨rfl, -⟩ | ⟨rfl, -⟩ | ⟨rfl, -⟩ | ⟨rfl, -⟩ | ⟨rfl, -⟩ | ⟨rfl, -⟩ := named
      all_goals exact ⟨_, _, rfl, by decide⟩
  | number numeral =>
      obtain ⟨first, rest, starts, digit | rfl⟩ := numeral.exists_text_eq_cons
      · exact ⟨first, rest, starts, by rw [opens, digit, Bool.true_or]⟩
      · exact ⟨'-', rest, starts, by decide⟩
  | string pieces => exact ⟨_, _, rfl, by decide⟩
  | emptyArray blank => exact ⟨_, _, rfl, by decide⟩
  | array blank items => exact ⟨_, _, rfl, by decide⟩
  | emptyObject blank => exact ⟨_, _, rfl, by decide⟩
  | object blank entries => exact ⟨_, _, rfl, by decide⟩

theorem isSpace_of_opens {character : Char} (opened : opens character = true) :
    isSpace character = false := by
  by_contra space
  simp only [isSpace, Bool.not_eq_false, Bool.or_eq_true, beq_iff_eq] at space
  obtain ((rfl | rfl) | rfl) | rfl := space
  all_goals exact absurd opened (by decide)

theorem skipSpace_blank (blank : Blank) {first : Char} {rest : List Char}
    (filled : isSpace first = false) : skipSpace (blank.text ++ first :: rest) = first :: rest := by
  rw [skipSpace, List.dropWhile_append_of_pos blank.spaces,
    List.dropWhile_cons_of_neg (by simp [filled])]

theorem skipSpace_syntax (blank : Blank) (written : Syntax) (rest : List Char) :
    skipSpace (blank.text ++ (written.text ++ rest)) = written.text ++ rest := by
  obtain ⟨first, behind, starts, opened⟩ := written.exists_text_eq_cons
  rw [starts, List.cons_append]
  exact skipSpace_blank blank (isSpace_of_opens opened)

/-- A piece of a string is read to its character; no code joins another one. -/
theorem readString_piece {piece : Piece} (readable : piece.Readable) (opening : Nat) (next : Char)
    (behind : List Char) :
    readString opening (piece.text ++ next :: behind) =
      prepend piece.character (readString opening (next :: behind)) := by
  cases piece with
  | plain character printed unquoted unescaped =>
      change readString opening (character :: next :: behind) = _
      rw [readString.eq_7 opening character _ unquoted (fun eq => absurd eq unescaped)
        (fun _ _ _ _ _ _ eq => absurd eq unescaped) (fun _ eq => absurd eq unescaped)
        (fun _ _ eq => absurd eq unescaped), if_neg (Nat.not_le.mpr printed)]
      rfl
  | escape letter character names =>
      have lettered : letter ≠ 'u' := by
        rintro rfl
        simp [escape?] at names
      change readString opening ('\\' :: letter :: next :: behind) = _
      rw [readString.eq_6 opening letter _ (fun _ _ _ _ _ _ eq => absurd eq lettered)
        (fun eq => absurd eq lettered), names]
      rfl
  | code written =>
      change readString opening ('\\' :: 'u' :: written.first :: written.second :: written.third ::
        written.fourth :: next :: behind) = _
      rw [readString.eq_4, written.writes]
      simp only [readable.1, Bool.false_and, Bool.false_eq_true, if_false]
      rfl
  | pair => exact readable.elim

/-- A string is read piece by piece. -/
theorem readString_rawText {pieces : List Piece} (readable : ReadableString pieces) (opening : Nat)
    (rest : List Char) :
    readString opening (rawText pieces ++ '"' :: rest) = .ok (contentOf pieces, rest) := by
  induction pieces with
  | nil =>
      change readString opening ('"' :: rest) = _
      rw [readString]
      rfl
  | cons piece pieces induction =>
      obtain ⟨first, others⟩ := List.forall_mem_cons.mp readable
      obtain ⟨next, behind, follows⟩ : ∃ next behind,
        rawText pieces ++ '"' :: rest = next :: behind :=
        List.exists_cons_of_ne_nil (by simp)
      have split : rawText (piece :: pieces) ++ '"' :: rest = piece.text ++ next :: behind := by
        rw [← follows, rawText, List.flatMap_cons, List.append_assoc, rawText]
      rw [split, readString_piece first, ← follows, induction others]
      rfl

/-- A text with which no number goes on. -/
def EndsNumber (text : List Char) : Prop :=
  ∀ character, text.head? = some character →
    isDigit character = false ∧ character ≠ '.' ∧ character ≠ 'e' ∧ character ≠ 'E'

section Number

variable {rest : List Char}

theorem takeWhile_digits {digits : List Char} (each : ∀ digit ∈ digits, isDigit digit = true)
    (ends : ∀ character, rest.head? = some character → isDigit character = false) :
    (digits ++ rest).takeWhile isDigit = digits ∧ (digits ++ rest).dropWhile isDigit = rest := by
  rw [List.takeWhile_append_of_pos each, List.dropWhile_append_of_pos each]
  cases rest with
  | nil => simp
  | cons first behind => simp [ends first rfl]

theorem head?_digits {digits : List Char} (filled : digits ≠ [])
    (each : ∀ digit ∈ digits, isDigit digit = true) (rest : List Char) :
    (digits ++ rest).head?.any isDigit = true := by
  obtain ⟨first, others, rfl⟩ := List.exists_cons_of_ne_nil filled
  simp [each first]

theorem takeWhole_numeral (numeral : Numeral)
    (ends : ∀ character, rest.head? = some character → isDigit character = false) :
    takeWhole (numeral.whole ++ rest) = some (numeral.whole, rest) := by
  have each : ∀ digit ∈ numeral.whole, isDigit digit = true :=
    fun digit member => numeral.isDigits digit (List.mem_append_left _ member)
  by_cases zero : numeral.whole = ['0']
  · rw [zero]
    rfl
  · obtain ⟨first, others, whole⟩ := List.exists_cons_of_ne_nil numeral.filled
    have nonzero : first ≠ '0' := by
      rintro rfl
      exact zero (numeral.bare (by rw [whole]; rfl))
    have found := head?_digits numeral.filled each rest
    obtain ⟨taken, dropped⟩ := takeWhile_digits each ends
    rw [whole, List.cons_append] at found taken dropped ⊢
    rw [takeWhole.eq_2 _ (fun _ eq => absurd (List.cons.inj eq).1 nonzero),
      if_pos found, taken, dropped]

theorem takeFraction_fractionText {fraction : List Char}
    (each : ∀ digit ∈ fraction, isDigit digit = true)
    (ends : ∀ character, rest.head? = some character →
      isDigit character = false ∧ character ≠ '.') :
    takeFraction (Numeral.fractionText fraction ++ rest) = (fraction, rest) := by
  unfold Numeral.fractionText
  cases fraction with
  | nil =>
      refine takeFraction.eq_2 _ fun behind eq => (ends '.' ?_).2 rfl
      rw [show rest = '.' :: behind from eq]
      rfl
  | cons first others =>
      obtain ⟨taken, dropped⟩ := takeWhile_digits each fun character head => (ends character head).1
      change takeFraction ('.' :: (first :: others ++ rest)) = _
      rw [takeFraction, if_pos (head?_digits (List.cons_ne_nil _ _) each rest), taken, dropped]

theorem takeSign_signText (sign : Option Bool) {digits : List Char} (filled : digits ≠ [])
    (each : ∀ digit ∈ digits, isDigit digit = true) (rest : List Char) :
    takeSign (signText sign ++ (digits ++ rest)) = (sign == some true, digits ++ rest) := by
  cases sign with
  | none =>
      obtain ⟨first, others, rfl⟩ := List.exists_cons_of_ne_nil filled
      have digit := each first List.mem_cons_self
      refine takeSign.eq_3 _ (fun _ eq => ?_) (fun _ eq => ?_)
      all_goals
        obtain ⟨rfl, -⟩ := List.cons.inj eq
        exact absurd digit (by decide)
  | some negative => cases negative <;> rfl

theorem takeExponent_text (exponent : Exponent)
    (ends : ∀ character, rest.head? = some character → isDigit character = false) :
    takeExponent (exponent.text ++ rest) = some (exponent.size, rest) := by
  obtain ⟨taken, dropped⟩ := takeWhile_digits exponent.isDigits ends
  change takeExponent (exponent.mark :: (signText exponent.sign ++ exponent.digits ++ rest)) = _
  rw [takeExponent, if_pos (by simpa using exponent.marked), List.append_assoc,
    takeSign_signText exponent.sign exponent.filled exponent.isDigits]
  simp only [head?_digits exponent.filled exponent.isDigits rest, if_true, taken, dropped]
  simp [Exponent.size, numberOf]

theorem takeExponent_eq_none (ends : EndsNumber rest) : takeExponent rest = none := by
  cases rest with
  | nil => rfl
  | cons mark behind =>
      obtain ⟨-, -, small, capital⟩ := ends mark rfl
      rw [takeExponent, if_neg (by simp [small, capital])]

/-- Behind the digits of a number comes no further digit and no point. -/
theorem exponent_head (exponent : Option Exponent) (ends : EndsNumber rest) {character : Char}
    (first : ((exponent.map Exponent.text).getD [] ++ rest).head? = some character) :
    isDigit character = false ∧ character ≠ '.' := by
  cases exponent with
  | none => exact ⟨(ends character first).1, (ends character first).2.1⟩
  | some exponent =>
      obtain rfl : exponent.mark = character := by simpa [Exponent.text] using first
      rcases exponent.marked with mark | mark
      all_goals
        rw [mark]
        decide

theorem fraction_head (numeral : Numeral) (ends : EndsNumber rest) {character : Char}
    (first : (Numeral.fractionText numeral.fraction ++
      ((numeral.exponent.map Exponent.text).getD [] ++ rest)).head? = some character) :
    isDigit character = false := by
  unfold Numeral.fractionText at first
  split at first
  · exact (exponent_head numeral.exponent ends first).1
  · obtain rfl : '.' = character := by simpa using first
    decide

/-- A readable number is read to its value. -/
theorem readUnsigned_numeral {numeral : Numeral} (readable : numeral.Readable)
    (ends : EndsNumber rest)
    (text : List Char) :
    readUnsigned text numeral.negative (numeral.whole ++ (Numeral.fractionText numeral.fraction ++
      ((numeral.exponent.map Exponent.text).getD [] ++ rest))) = .ok (numeral.value, rest) := by
  have each : ∀ digit ∈ numeral.fraction, isDigit digit = true :=
    fun digit member => numeral.isDigits digit (List.mem_append_right _ member)
  unfold readUnsigned
  rw [takeWhole_numeral numeral fun _ => fraction_head numeral ends]
  dsimp only
  rw [takeFraction_fractionText each fun _ => exponent_head numeral.exponent ends]
  dsimp only
  unfold Numeral.value
  cases written : numeral.exponent with
  | some exponent =>
      rw [Option.map_some, Option.getD_some,
        takeExponent_text exponent fun character first => (ends character first).1]
      rfl
  | none =>
      rw [Option.map_none, Option.getD_none, List.nil_append, takeExponent_eq_none ends]
      dsimp only
      split
      · rename_i empty
        rw [if_neg (Nat.not_lt.mpr (readable written (List.isEmpty_iff.mp empty)))]
        rfl
      · rfl

theorem readNumber_numeral {numeral : Numeral} (readable : numeral.Readable)
    (ends : EndsNumber rest) :
    readNumber (numeral.text ++ rest) = .ok (numeral.value, rest) := by
  have read := readUnsigned_numeral readable ends (numeral.text ++ rest)
  have unsigned : numeral.text ++ rest = (if numeral.negative then ['-'] else []) ++
      (numeral.whole ++ (Numeral.fractionText numeral.fraction ++
        ((numeral.exponent.map Exponent.text).getD [] ++ rest))) := by
    simp only [Numeral.text, List.append_assoc]
  rw [unsigned] at read ⊢
  cases sign : numeral.negative with
  | true =>
      rw [sign] at read
      exact read
  | false =>
      rw [sign] at read
      obtain ⟨first, others, whole⟩ := List.exists_cons_of_ne_nil numeral.filled
      have digit := numeral.isDigits first (by simp [whole])
      refine (readNumber.eq_2 _ fun behind eq => ?_).trans read
      rw [whole] at eq
      obtain ⟨rfl, -⟩ := List.cons.inj eq
      exact absurd digit (by decide)

end Number

variable {rest : List Char}

theorem takeNamed_word {name : String} {value : Value} (named : (name, value) ∈ namedValues)
    (rest : List Char) : takeNamed (name.toList ++ rest) = some (value, rest) := by
  simp only [namedValues, List.mem_cons, Prod.mk.injEq, List.not_mem_nil, or_false] at named
  obtain ⟨rfl, rfl⟩ | ⟨rfl, rfl⟩ | ⟨rfl, rfl⟩ | ⟨rfl, rfl⟩ | ⟨rfl, rfl⟩ | ⟨rfl, rfl⟩ := named
  all_goals rfl

/-- Names begin with letters, behind a minus sign at most. -/
theorem unsigned_name_head {name : String} {value : Value} (named : (name, value) ∈ namedValues) :
    ∃ first rest, isDigit first = false ∧ (name.toList = '-' :: first :: rest ∨
      first ≠ '-' ∧ name.toList = first :: rest) := by
  simp only [namedValues, List.mem_cons, Prod.mk.injEq, List.not_mem_nil, or_false] at named
  obtain ⟨rfl, -⟩ | ⟨rfl, -⟩ | ⟨rfl, -⟩ | ⟨rfl, -⟩ | ⟨rfl, -⟩ | ⟨rfl, -⟩ := named
  case' inr.inr.inr.inr.inr => exact ⟨_, _, by decide, .inl rfl⟩
  all_goals exact ⟨_, _, by decide, .inr ⟨by decide, rfl⟩⟩

/-- A number has the beginning of no name. -/
theorem takeNamed_numeral (numeral : Numeral) (rest : List Char) :
    takeNamed (numeral.text ++ rest) = none := by
  obtain ⟨digit, others, whole⟩ := List.exists_cons_of_ne_nil numeral.filled
  have isDigit_digit : isDigit digit = true := numeral.isDigits digit (by simp [whole])
  have unsigned_digit : digit ≠ '-' := by
    rintro rfl
    exact absurd isDigit_digit (by decide)
  refine List.findSome?_eq_none_iff.mpr fun (name, value) named => if_neg fun begins => ?_
  obtain ⟨behind, split⟩ := List.isPrefixOf_iff_prefix.mp begins
  obtain ⟨first, tail, isDigit_first, name_eq | ⟨unsigned, name_eq⟩⟩ := unsigned_name_head named
  all_goals
    rw [name_eq, Numeral.text, whole] at split
    cases sign : numeral.negative
    all_goals
      simp only [sign, if_true, if_false, Bool.false_eq_true, List.cons_append, List.nil_append,
        List.cons.injEq] at split
      grind

/-! ## Values -/

/-- What may stand behind a value. -/
def EndsValue (text : List Char) : Prop :=
  ∀ character, text.head? = some character → isSpace character = true ∨ character = ',' ∨
    character = ']' ∨ character = '\x7d'

theorem EndsValue.endsNumber {rest : List Char} (ends : EndsValue rest) : EndsNumber rest := by
  intro character first
  have spaces := ends character first
  simp only [isSpace, Bool.or_eq_true, beq_iff_eq] at spaces
  obtain (((rfl | rfl) | rfl) | rfl) | rfl | rfl | rfl := spaces
  all_goals decide

theorem endsValue_blank (blank : Blank) {first : Char} (rest : List Char)
    (closes : first = ',' ∨ first = ']' ∨ first = '\x7d') :
    EndsValue (blank.text ++ first :: rest) := by
  intro character head
  cases written : blank.text with
  | nil =>
      rw [written] at head
      obtain rfl : first = character := by simpa using head
      exact .inr closes
  | cons space spaces =>
      rw [written] at head
      obtain rfl : space = character := by simpa using head
      exact .inl (blank.spaces space (by rw [written]; exact List.mem_cons_self))

/-- A word or a number, which no mark opens. -/
theorem readValue_plain {text : List Char} (fuel : Nat)
    (unmarked : ∀ character, text.head? = some character →
      character ≠ '"' ∧ character ≠ '\x7b' ∧ character ≠ '[') :
    readValue (fuel + 1) text = match takeNamed text with
      | some (value, rest) => .ok (value, rest)
      | none => readNumber text :=
  readValue.eq_5 text fuel (fun _ eq => (unmarked '"' (by rw [eq]; rfl)).1 rfl)
    (fun _ eq => (unmarked '\x7b' (by rw [eq]; rfl)).2.1 rfl)
    (fun _ eq => (unmarked '[' (by rw [eq]; rfl)).2.2 rfl)

theorem readValue_word {name : String} {value : Value} (named : (name, value) ∈ namedValues)
    (fuel : Nat) (rest : List Char) :
    readValue (fuel + 1) (name.toList ++ rest) = .ok (value, rest) := by
  rw [readValue_plain fuel, takeNamed_word named]
  intro character first
  simp only [namedValues, List.mem_cons, Prod.mk.injEq, List.not_mem_nil, or_false] at named
  obtain ⟨rfl, -⟩ | ⟨rfl, -⟩ | ⟨rfl, -⟩ | ⟨rfl, -⟩ | ⟨rfl, -⟩ | ⟨rfl, -⟩ := named
  all_goals
    obtain rfl := Option.some.inj first
    decide

theorem readValue_numeral {numeral : Numeral} (readable : numeral.Readable) (ends : EndsNumber rest)
    (fuel : Nat) : readValue (fuel + 1) (numeral.text ++ rest) = .ok (numeral.value, rest) := by
  rw [readValue_plain fuel, takeNamed_numeral]
  · exact readNumber_numeral readable ends
  · intro character found
    obtain ⟨first, tail, starts, digit | rfl⟩ := numeral.exists_text_eq_cons
    · rw [starts] at found
      obtain rfl := Option.some.inj found
      refine ⟨?_, ?_, ?_⟩
      all_goals
        rintro rfl
        exact absurd digit (by decide)
    · rw [starts] at found
      obtain rfl := Option.some.inj found
      decide

theorem readString_quoted {pieces : List Piece} (readable : ReadableString pieces) (opening : Nat)
    (rest : List Char) :
    readString opening (rawText pieces ++ ['"'] ++ rest) = .ok (contentOf pieces, rest) := by
  rw [List.append_assoc]
  exact readString_rawText readable opening rest

theorem Items.exists_text_eq_cons (items : Items) :
    ∃ first rest, items.text = first :: rest ∧ opens first = true := by
  cases items with
  | last item blank =>
      obtain ⟨first, rest, starts, opened⟩ := item.exists_text_eq_cons
      exact ⟨first, _, by rw [Items.text, starts]; rfl, opened⟩
  | more item before after items =>
      obtain ⟨first, rest, starts, opened⟩ := item.exists_text_eq_cons
      exact ⟨first, _, by rw [Items.text, starts]; rfl, opened⟩

theorem Entries.exists_text_eq_cons (entries : Entries) : ∃ rest, entries.text = '"' :: rest := by
  cases entries <;> exact ⟨_, rfl⟩

theorem skipSpace_items (blank : Blank) (items : Items) (rest : List Char) :
    skipSpace (blank.text ++ (items.text ++ rest)) = items.text ++ rest := by
  obtain ⟨first, tail, starts, opened⟩ := items.exists_text_eq_cons
  rw [starts]
  exact skipSpace_blank blank (isSpace_of_opens opened)

theorem skipSpace_entries (blank : Blank) (entries : Entries) (rest : List Char) :
    skipSpace (blank.text ++ (entries.text ++ rest)) = entries.text ++ rest := by
  obtain ⟨tail, starts⟩ := entries.exists_text_eq_cons
  rw [starts]
  exact skipSpace_blank blank (by decide)

/-- An item is read, and then what stands behind it. -/
theorem readItems_item {item : Value} {text behind : List Char} {fuel : Nat}
    (read : readValue fuel text = .ok (item, behind)) :
    (skipSpace behind = ']' :: rest → readItems (fuel + 1) text = .ok ([item], rest)) ∧
      (∀ {items : List Value} {after : List Char}, skipSpace behind = ',' :: after →
        readItems fuel (skipSpace after) = .ok (items, rest) →
          readItems (fuel + 1) text = .ok (item :: items, rest)) := by
  rw [readItems.eq_2, read]
  constructor
  · intro closed
    simp only [closed]
  · intro items after continues others
    simp only [continues, others]

/-- An entry is read, and then what stands behind it. -/
theorem readEntries_entry {key : List Piece} (readable : ReadableString key)
    {between tail behind : List Char} {value : Value} {fuel : Nat}
    (colon : skipSpace between = ':' :: tail)
    (read : readValue fuel (skipSpace tail) = .ok (value, behind)) :
    (skipSpace behind = '\x7d' :: rest →
      readEntries (fuel + 1) ('"' :: (rawText key ++ '"' :: between)) =
        .ok ([(textValue key, value)], rest)) ∧
      (∀ {entries : List (Value × Value)} {after : List Char}, skipSpace behind = ',' :: after →
        readEntries fuel (skipSpace after) = .ok (entries, rest) →
          readEntries (fuel + 1) ('"' :: (rawText key ++ '"' :: between)) =
            .ok ((textValue key, value) :: entries, rest)) := by
  rw [readEntries.eq_2, readString_rawText readable]
  simp only [colon, read]
  constructor
  · intro closed
    simp only [closed, textValue]
  · intro entries after continues others
    simp only [continues, others, textValue]

mutual

/-- A readable value is read where the fuel is no less than the length of its text. -/
theorem readValue_text : ∀ (written : Syntax) {fuel : Nat} {rest : List Char}, written.Readable →
    EndsValue rest → written.text.length ≤ fuel →
      readValue fuel (written.text ++ rest) = .ok (written.value, rest)
  | written, 0, _, _, _, enough => by
    obtain ⟨_, _, starts, -⟩ := written.exists_text_eq_cons
    simp [starts] at enough
  | .word _ _ named, fuel + 1, rest, _, _, _ => readValue_word named fuel rest
  | .number _, fuel + 1, _, readable, ends, _ => readValue_numeral readable ends.endsNumber fuel
  | .string pieces, fuel + 1, rest, readable, _, _ => by
    rw [Syntax.text, quoted, List.cons_append, readValue.eq_2, readString_quoted readable]
    rfl
  | .emptyArray blank, fuel + 1, rest, _, _, _ => by
    rw [Syntax.text, List.cons_append, List.append_assoc, readValue.eq_4, List.cons_append,
      List.nil_append, skipSpace_blank blank (by decide)]
    rfl
  | .array blank items, fuel + 1, rest, readable, _, enough => by
    have within : items.text.length ≤ fuel := by
      simp only [Syntax.text, List.length_cons, List.length_append] at enough
      omega
    rw [Syntax.text, List.cons_append, List.append_assoc, readValue.eq_4, skipSpace_items]
    split
    · rename_i closed
      obtain ⟨first, tail, starts, opened⟩ := items.exists_text_eq_cons
      rw [starts] at closed
      obtain ⟨rfl, -⟩ := List.cons.inj closed
      exact absurd opened (by decide)
    · rw [readItems_text items readable within]
      rfl
  | .emptyObject blank, fuel + 1, rest, _, _, _ => by
    rw [Syntax.text, List.cons_append, List.append_assoc, readValue.eq_3, List.cons_append,
      List.nil_append, skipSpace_blank blank (by decide)]
    rfl
  | .object blank entries, fuel + 1, rest, readable, _, enough => by
    have within : entries.text.length ≤ fuel := by
      simp only [Syntax.text, List.length_cons, List.length_append] at enough
      omega
    rw [Syntax.text, List.cons_append, List.append_assoc, readValue.eq_3, skipSpace_entries]
    split
    · rename_i closed
      obtain ⟨tail, starts⟩ := entries.exists_text_eq_cons
      rw [starts] at closed
      exact absurd (List.cons.inj closed).1 (by decide)
    · rw [readEntries_text entries readable within]
      rfl

theorem readItems_text : ∀ (written : Items) {fuel : Nat} {rest : List Char}, written.Readable →
    written.text.length ≤ fuel → readItems fuel (written.text ++ rest) = .ok (written.values, rest)
  | written, 0, _, _, enough => by
    obtain ⟨_, _, starts, -⟩ := written.exists_text_eq_cons
    simp [starts] at enough
  | .last item blank, fuel + 1, rest, readable, enough => by
    simp only [Items.text, List.length_append, List.length_singleton] at enough
    have read := readValue_text item readable (endsValue_blank blank rest (.inr (.inl rfl)))
      (show item.text.length ≤ fuel by omega)
    simp only [Items.text, List.append_assoc, List.cons_append, List.nil_append]
    exact (readItems_item read).1 (skipSpace_blank blank (by decide))
  | .more item before after items, fuel + 1, rest, readable, enough => by
    simp only [Items.text, List.length_append, List.length_cons] at enough
    have read := readValue_text item readable.1
      (endsValue_blank before (after.text ++ (items.text ++ rest)) (.inl rfl))
      (show item.text.length ≤ fuel by omega)
    simp only [Items.text, List.append_assoc, List.cons_append]
    refine (readItems_item read).2 (skipSpace_blank before (by decide)) ?_
    rw [skipSpace_items]
    exact readItems_text items readable.2 (by omega)

theorem readEntries_text : ∀ (written : Entries) {fuel : Nat} {rest : List Char}, written.Readable →
    written.text.length ≤ fuel → readEntries fuel (written.text ++ rest) =
      .ok (written.entries, rest)
  | written, 0, _, _, enough => by
    obtain ⟨_, starts⟩ := written.exists_text_eq_cons
    simp [starts] at enough
  | .last key before after value blank, fuel + 1, rest, readable, enough => by
    simp only [Entries.text, quoted, List.length_append, List.length_cons] at enough
    have read := readValue_text value readable.2
      (endsValue_blank blank rest (.inr (.inr rfl))) (show value.text.length ≤ fuel by omega)
    rw [← skipSpace_syntax after] at read
    simp only [Entries.text, quoted, List.append_assoc, List.cons_append, List.nil_append]
    exact (readEntries_entry readable.1 (skipSpace_blank before (by decide)) read).1
      (skipSpace_blank blank (by decide))
  | .more key before after value blank next entries, fuel + 1, rest, readable, enough => by
    simp only [Entries.text, quoted, List.length_append, List.length_cons] at enough
    have read := readValue_text value readable.2.1
      (endsValue_blank blank (next.text ++ (entries.text ++ rest)) (.inl rfl))
      (show value.text.length ≤ fuel by omega)
    rw [← skipSpace_syntax after] at read
    simp only [Entries.text, quoted, List.append_assoc, List.cons_append, List.nil_append]
    refine (readEntries_entry readable.1 (skipSpace_blank before (by decide)) read).2
      (skipSpace_blank blank (by decide)) ?_
    rw [skipSpace_entries]
    exact readEntries_text entries readable.2.2 (by omega)

end

/-- A readable value between blanks is read to its value. -/
theorem readText_readable {written : Syntax} (readable : written.Readable) (before after : Blank) :
    readText (before.text ++ written.text ++ after.text) = .ok written.value := by
  obtain ⟨first, tail, starts, opened⟩ := written.exists_text_eq_cons
  have unmarked : ∀ rest, before.text ++ written.text ++ after.text ≠ '\uFEFF' :: rest := by
    intro rest eq
    cases spaces : before.text with
    | nil =>
        rw [spaces, starts] at eq
        obtain ⟨rfl, -⟩ := List.cons.inj eq
        exact absurd opened (by decide)
    | cons space others =>
        rw [spaces] at eq
        obtain ⟨rfl, -⟩ := List.cons.inj eq
        exact absurd (before.spaces '\uFEFF' (by rw [spaces]; exact List.mem_cons_self)) (by decide)
  have ends : EndsValue after.text := fun character found =>
    .inl (after.spaces character (List.mem_of_mem_head? found))
  have read := readValue_text written readable ends
    (show written.text.length ≤ 2 * (before.text ++ written.text ++ after.text).length + 1 by
      simp only [List.length_append]
      omega)
  have closed : skipSpace after.text = [] := List.dropWhile_eq_nil_iff.mpr after.spaces
  rw [readText.eq_2 _ unmarked, List.append_assoc before.text, skipSpace_syntax]
  rw [List.append_assoc before.text] at read
  rw [read]
  dsimp only
  rw [closed]

/-! ## Portable syntax -/

/-- Blanks without tabs. -/
def Blank.Portable (blank : Blank) : Prop :=
  '\t' ∉ blank.text

theorem Blank.portable_none : Blank.none.Portable :=
  List.not_mem_nil

/-- Characters that stand in quotes as they are, escapes, and codes of characters on their own. -/
def Piece.Portable : Piece → Prop
  | .plain character _ _ _ => Yaml.isAllowed character = true ∧ Yaml.isBreak character = false
  | .escape _ _ _ => True
  | .code written =>
    isHighSurrogate written.number = false ∧ isLowSurrogate written.number = false
  | .pair _ _ _ _ => False

/-- What stands between quotes. -/
def PortableString (pieces : List Piece) : Prop :=
  ∀ piece ∈ pieces, piece.Portable

/-- A whole number is within the limit of digits. -/
def Numeral.Portable (numeral : Numeral) : Prop :=
  numeral.exponent = none → numeral.fraction = [] → numeral.whole.length ≤ numeralLimit

/-- The most characters from the beginning of a key to its colon. -/
def keyLimit : Nat := 1024

/-- A key whose colon stands behind it on its line and not too far off. -/
structure PortableKey (key : List Piece) (before : Blank) : Prop where
  pieces : PortableString key
  spaces : ∀ character ∈ before.text, character = ' '
  length : (quoted key ++ before.text).length ≤ keyLimit

mutual

/-- A value whose parts are all portable. -/
def Syntax.Portable : Syntax → Prop
  | .word _ _ _ => True
  | .number numeral => numeral.Portable
  | .string pieces => PortableString pieces
  | .emptyArray blank => blank.Portable
  | .array blank items => blank.Portable ∧ items.Portable
  | .emptyObject blank => blank.Portable
  | .object blank entries => blank.Portable ∧ entries.Portable

def Items.Portable : Items → Prop
  | .last item blank => item.Portable ∧ blank.Portable
  | .more item before after items =>
    item.Portable ∧ before.Portable ∧ after.Portable ∧ items.Portable

def Entries.Portable : Entries → Prop
  | .last key before after value blank =>
    PortableKey key before ∧ after.Portable ∧ value.Portable ∧ blank.Portable
  | .more key before after value blank next entries =>
    PortableKey key before ∧ after.Portable ∧ value.Portable ∧ blank.Portable ∧ next.Portable ∧
      entries.Portable

end

theorem mem_of_escape {letter character : Char} (names : escape? letter = some character) :
    letter ∈ "\"\\/bfnrt".toList := by
  by_contra other
  simp at other
  simp [escape?, other] at names

/-- What is written as a mapping is an object. -/
theorem Numeral.value_ne_map (numeral : Numeral) (entries : List (Value × Value)) :
    numeral.value ≠ .map entries := by
  unfold Numeral.value
  split
  · exact nofun
  · split <;> exact nofun

theorem value_ne_map_of_mem_namedValues {name : String} {value : Value}
    (named : (name, value) ∈ namedValues) (entries : List (Value × Value)) :
      value ≠ .map entries := by
  simp only [namedValues, List.mem_cons, Prod.mk.injEq, List.not_mem_nil, or_false] at named
  obtain ⟨-, rfl⟩ | ⟨-, rfl⟩ | ⟨-, rfl⟩ | ⟨-, rfl⟩ | ⟨-, rfl⟩ | ⟨-, rfl⟩ := named
  all_goals
    intro same
    cases same

theorem mem_signText {sign : Option Bool} {character : Char} (member : character ∈ signText sign) :
    character ∈ "+-".toList := by
  obtain _ | _ | _ := sign
  · contradiction
  · obtain rfl := List.mem_singleton.mp member
    decide
  · obtain rfl := List.mem_singleton.mp member
    decide

/-- The characters of exponents. -/
theorem Exponent.mem_text {exponent : Exponent} {character : Char}
    (member : character ∈ exponent.text) :
    isDigit character = true ∨ character ∈ "-+eE".toList := by
  obtain rfl | behind := List.mem_cons.mp member
  · rcases exponent.marked with mark | mark <;> exact .inr (by rw [mark]; decide)
  · obtain sign | digit := List.mem_append.mp behind
    · have each : ∀ mark ∈ "+-".toList, mark ∈ "-+eE".toList :=
        List.all_iff_forall_prop.mp (by decide)
      exact .inr (each character (mem_signText sign))
    · exact .inl (exponent.isDigits character digit)

/-- The characters of numbers. -/
theorem Numeral.mem_text {numeral : Numeral} {character : Char}
    (member : character ∈ numeral.text) :
    isDigit character = true ∨ character ∈ "-+.eE".toList := by
  unfold Numeral.text Numeral.fractionText at member
  simp only [List.mem_append] at member
  obtain ((sign | digit) | point) | exponent := member
  · split at sign
    · obtain rfl := List.mem_singleton.mp sign
      exact .inr (by decide)
    · contradiction
  · exact .inl (numeral.isDigits character (List.mem_append_left _ digit))
  · split at point
    · contradiction
    · obtain rfl | digit := List.mem_cons.mp point
      · exact .inr (by decide)
      · exact .inl (numeral.isDigits character (List.mem_append_right _ digit))
  · cases written : numeral.exponent with
    | none =>
        rw [written] at exponent
        contradiction
    | some marked =>
        rw [written] at exponent
        have each : ∀ mark ∈ "-+eE".toList, mark ∈ "-+.eE".toList :=
          List.all_iff_forall_prop.mp (by decide)
        exact marked.mem_text exponent |>.imp_right (each character)

theorem PortableString.readable {pieces : List Piece} (portable : PortableString pieces) :
    ReadableString pieces := by
  intro piece member
  have own := portable piece member
  cases piece with
  | code written => exact own
  | pair => exact own
  | _ => trivial

mutual

theorem Syntax.Portable.readable : ∀ {written : Syntax}, written.Portable → written.Readable
  | .word _ _ _, _ => trivial
  | .number _, portable => portable
  | .string _, portable => PortableString.readable portable
  | .emptyArray _, _ => trivial
  | .array _ _, portable => Items.Portable.readable portable.2
  | .emptyObject _, _ => trivial
  | .object _ _, portable => Entries.Portable.readable portable.2

theorem Items.Portable.readable : ∀ {written : Items}, written.Portable → written.Readable
  | .last _ _, portable => Syntax.Portable.readable portable.1
  | .more _ _ _ _, portable =>
    ⟨Syntax.Portable.readable portable.1, Items.Portable.readable portable.2.2.2⟩

theorem Entries.Portable.readable : ∀ {written : Entries}, written.Portable → written.Readable
  | .last _ _ _ _ _,
      portable => ⟨portable.1.pieces.readable, Syntax.Portable.readable portable.2.2.1⟩
  | .more _ _ _ _ _ _ _, portable =>
    ⟨portable.1.pieces.readable, Syntax.Portable.readable portable.2.2.1,
      Entries.Portable.readable portable.2.2.2.2.2⟩

end

/-- A portable value between blanks is read to its value. -/
theorem readText_portable {written : Syntax} (portable : written.Portable) (before after : Blank) :
    readText (before.text ++ written.text ++ after.text) = .ok written.value :=
  readText_readable portable.readable before after

end ApiCompiler.Json
