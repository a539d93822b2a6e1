import ApiCompiler.Proofs.Json.Reading
import ApiCompiler.Proofs.Yaml.Cursor

/-!
# Scalars of JSON

How the scalars of portable JSON are cut out of a YAML text: strings between quotes, and numbers and
words without.
-/

namespace ApiCompiler.Yaml

open Cursor Json

variable {cursor : Cursor} {rest : List Char} {fuel : Nat}

/-- A character that stands for itself is put in front of the word behind it. -/
theorem takeQuotedWord_plain {character : Char} (starts : cursor.rest = character :: rest)
    (plain : isQuotedPlain character = true) :
    takeQuotedWord true (fuel + 1) cursor =
      (fun taken => (character :: taken.1, taken.2)) <$>
        takeQuotedWord true (fuel + 1) cursor.step := by
  have stepped : cursor.step.rest = rest := (passes_step starts).rest_eq starts
  have spans : cursor.span isQuotedPlain =
      (character :: (cursor.step.span isQuotedPlain).1, (cursor.step.span isQuotedPlain).2) := by
    rw [span, span, starts, stepped, spanFrom, if_pos plain]
  unfold takeQuotedWord
  rw [spans]
  generalize cursor.step.span isQuotedPlain = taken
  dsimp only
  split
  · simp only [if_true, map_bind, map_pure, List.cons_append]
  · rfl
  · simp only [Bool.not_true, Bool.false_eq_true, if_false]
    split
    · rfl
    · split
      · simp only [map_bind, map_pure, List.cons_append]
      · simp only [map_bind, map_pure, List.cons_append]
      · split
        · simp only [map_bind, map_pure, List.cons_append]
        · rfl
  · rfl

theorem span_stopped {character : Char} (starts : cursor.rest = character :: rest)
    (stopped : isQuotedPlain character = false) : cursor.span isQuotedPlain = ([], cursor) := by
  have none := @span_eq cursor [] (character :: rest) isQuotedPlain starts (List.forall_mem_nil _)
  refine none fun first found => ?_
  obtain rfl := Option.some.inj found
  exact stopped

theorem takeQuotedWord_end {character : Char} (starts : cursor.rest = character :: rest)
    (ends : character = '"' ∨ character = ' ') :
    takeQuotedWord true (fuel + 1) cursor = .ok ([], cursor) := by
  unfold takeQuotedWord
  rcases ends with rfl | rfl
  all_goals
    rw [span_stopped starts (by decide)]
    simp only [starts]
    rfl

theorem takeQuotedWord_apostrophe (starts : cursor.rest = '\'' :: rest) :
    takeQuotedWord true (fuel + 1) cursor =
      (fun taken => ('\'' :: taken.1, taken.2)) <$> takeQuotedWord true fuel cursor.step := by
  rw [takeQuotedWord, span_stopped starts (by decide)]
  simp only [starts, if_true, List.nil_append, List.cons_append]
  rfl

theorem exists_escape {letter character : Char} (names : escape? letter = some character) :
    ∃ mark, escapes.find? (·.1 == letter) = some (mark, character) := by
  simp only [escape?, Bool.or_eq_true, decide_eq_true_eq] at names
  split at names
  · rename_i standing
    obtain rfl := Option.some.inj names
    obtain (rfl | rfl) | rfl := standing
    all_goals exact ⟨_, rfl⟩
  · repeat'
      split at names
      · subst_vars
        obtain rfl := Option.some.inj names
        exact ⟨_, rfl⟩
    contradiction

theorem takeQuotedWord_escape {letter character : Char} (names : escape? letter = some character)
    (starts : cursor.rest = '\\' :: letter :: rest) :
    takeQuotedWord true (fuel + 1) cursor =
      (fun taken => (character :: taken.1, taken.2)) <$>
        takeQuotedWord true fuel (cursor.advance 2) := by
  obtain ⟨mark, found⟩ := exists_escape names
  rw [takeQuotedWord, span_stopped starts (by decide)]
  simp only [starts, Bool.not_true, Bool.false_eq_true, if_false, found,
    List.nil_append, List.cons_append]
  rfl

theorem hexValue?_eq (first second third fourth : Char) :
    hexValue? [first, second, third, fourth] = code? first second third fourth := by
  simp [hexValue?, code?, Option.bind_assoc]

theorem lt_of_baseDigit? {base digit : Nat} {character : Char}
    (read : Text.baseDigit? base character = some digit) : digit < base := by
  unfold Text.baseDigit? at read
  simpa using (Option.filter_eq_some_iff.mp read).2

theorem code_lt (code : Code) : code.number < 0x10000 := by
  obtain ⟨a, b, c, d, number, writes⟩ := code
  simp only [code?, Option.bind_eq_bind, Option.bind_eq_some_iff, Option.pure_def,
    Option.some.injEq] at writes
  obtain ⟨first, readFirst, second, readSecond, third, readThird, fourth, readFourth, rfl⟩ := writes
  have := lt_of_baseDigit? readFirst
  have := lt_of_baseDigit? readSecond
  have := lt_of_baseDigit? readThird
  have := lt_of_baseDigit? readFourth
  simp only [Text.digitsValue, List.foldl_cons, List.foldl_nil]
  omega

/-- The code of a character on its own is taken for that character. -/
theorem takeCodedCharacter_eq (code : Code)
    (starts : cursor.rest = [code.first, code.second, code.third, code.fourth] ++ rest) :
    takeCodedCharacter 4 cursor = .ok (characterOf code.number, cursor.advance 4) := by
  have taken : takeCode 4 cursor = .ok (code.number, cursor.advance 4) := by
    have bound := code_lt code
    have first : cursor.rest.take 4 = [code.first, code.second, code.third, code.fourth] := by
      rw [starts]
      rfl
    rw [takeCode, first, hexValue?_eq, code.writes]
    simp only [List.length_cons, List.length_nil, Nat.lt_irrefl, if_false]
    rw [if_neg (by omega)]
  rw [takeCodedCharacter, taken]
  rfl

theorem takeQuotedWord_code {code : Code} (starts : cursor.rest = code.text ++ rest) :
    takeQuotedWord true (fuel + 1) cursor =
      (fun taken => (characterOf code.number :: taken.1, taken.2)) <$>
        takeQuotedWord true fuel (cursor.advance code.text.length) := by
  have behind : (cursor.advance 2).rest =
      [code.first, code.second, code.third, code.fourth] ++ rest :=
    @advance_rest cursor ['\\', 'u'] _ starts
  have first :
      cursor.rest = '\\' :: 'u' :: ([code.first, code.second, code.third, code.fourth] ++ rest) :=
    starts
  rw [takeQuotedWord, span_stopped first (by decide)]
  simp only [first, Bool.not_true, Bool.false_eq_true, if_false]
  have none : escapes.find? (·.1 == 'u') = none := by decide
  have width : codeWidth? 'u' = some 4 := by decide
  simp only [none, width, takeCodedCharacter_eq code behind]
  rfl

/-- A single space between quotes. -/
def IsGap (piece : Piece) : Prop :=
  piece.text = [' ']

instance : DecidablePred IsGap :=
  fun piece => inferInstanceAs (Decidable (piece.text = [' ']))

theorem rawText_cons (piece : Piece) (pieces : List Piece) :
    rawText (piece :: pieces) = piece.text ++ rawText pieces :=
  List.flatMap_cons

theorem rawText_append (pieces others : List Piece) :
    rawText (pieces ++ others) = rawText pieces ++ rawText others :=
  List.flatMap_append

theorem contentOf_append (pieces others : List Piece) :
    contentOf (pieces ++ others) = contentOf pieces ++ contentOf others :=
  List.map_append

theorem isQuotedPlain_of_portable {character : Char} (printed : 0x1F < character.toNat)
    (unquoted : character ≠ '"') (unescaped : character ≠ '\\')
    (unbroken : isBreak character = false)
    (solid : character ≠ ' ') (other : character ≠ '\'') : isQuotedPlain character = true := by
  have noTab : character ≠ '\t' := by
    rintro rfl
    exact absurd printed (by decide)
  simp [isQuotedPlain, unquoted, unescaped, unbroken, solid, other, noTab]

/-- A word goes on behind each of its pieces. -/
theorem takeQuotedWord_piece {piece : Piece} (portable : piece.Portable) (solid : ¬IsGap piece)
    (starts : cursor.rest = piece.text ++ rest) {content : List Char} {after : Cursor}
    (behind : ∀ further, fuel ≤ further →
      takeQuotedWord true further (cursor.advance piece.text.length) = .ok (content, after)) :
    takeQuotedWord true (fuel + 1) cursor = .ok (piece.character :: content, after) := by
  cases piece with
  | plain character printed unquoted unescaped =>
      by_cases apostrophe : character = '\''
      · subst apostrophe
        rw [takeQuotedWord_apostrophe starts]
        exact congrArg _ (behind fuel (Nat.le_refl fuel))
      · have plain := isQuotedPlain_of_portable printed unquoted unescaped portable.2
          (fun space => solid (congrArg (fun single => [single]) space)) apostrophe
        rw [takeQuotedWord_plain starts plain]
        exact congrArg _ (behind (fuel + 1) (Nat.le_succ fuel))
  | escape letter character names =>
      rw [takeQuotedWord_escape names starts]
      exact congrArg _ (behind fuel (Nat.le_refl fuel))
  | code written =>
      rw [takeQuotedWord_code starts]
      exact congrArg _ (behind fuel (Nat.le_refl fuel))
  | pair => exact portable.elim

/-- The pieces up to a space are taken for their characters. -/
theorem takeQuotedWord_pieces {pieces : List Piece} {character : Char}
    (portable : PortableString pieces) (solid : ∀ piece ∈ pieces, ¬IsGap piece)
    (starts : cursor.rest = rawText pieces ++ character :: rest)
    (ends : character = '"' ∨ character = ' ') (enough : pieces.length < fuel) :
    takeQuotedWord true fuel cursor =
      .ok (contentOf pieces, cursor.advance (rawText pieces).length) := by
  obtain ⟨fuel, rfl⟩ := Nat.exists_eq_succ_of_ne_zero (Nat.ne_zero_of_lt enough)
  induction pieces generalizing cursor fuel with
  | nil => exact takeQuotedWord_end starts ends
  | cons piece pieces induction =>
      obtain ⟨first, others⟩ := List.forall_mem_cons.mp portable
      obtain ⟨here, elsewhere⟩ := List.forall_mem_cons.mp solid
      rw [rawText_cons, List.append_assoc] at starts
      rw [rawText_cons, advance_append]
      refine takeQuotedWord_piece first here starts fun further within => ?_
      have filled : 0 < further := by
        rw [List.length_cons] at enough
        omega
      obtain ⟨further, rfl⟩ := Nat.exists_eq_succ_of_ne_zero (Nat.ne_of_gt filled)
      rw [List.length_cons] at enough
      exact induction others elsewhere (advance_rest starts) further (by omega)

/-- The first character of a piece that is no space, or of what follows the string. -/
theorem solid_head {pieces : List Piece} (portable : PortableString pieces)
    (solid : ∀ piece, pieces.head? = some piece → ¬IsGap piece) (rest : List Char) :
    ∃ first tail, rawText pieces ++ '"' :: rest = first :: tail ∧
      (first == ' ' || first == '\t') = false ∧ isBreak first = false := by
  cases pieces with
  | nil => exact ⟨_, _, rfl, by decide, by decide⟩
  | cons piece pieces =>
      have first := portable piece List.mem_cons_self
      have here := solid piece rfl
      rw [rawText_cons, List.append_assoc]
      cases piece with
      | plain character printed unquoted unescaped =>
          refine ⟨character, _, rfl, ?_, first.2⟩
          rw [Bool.or_eq_false_iff, beq_eq_false_iff_ne, beq_eq_false_iff_ne]
          refine ⟨fun space => here (congrArg (fun single => [single]) space), ?_⟩
          rintro rfl
          exact absurd printed (by decide)
      | escape letter character names => exact ⟨_, _, rfl, by decide, by decide⟩
      | code written => exact ⟨_, _, rfl, by decide, by decide⟩
      | pair => exact first.elim

theorem head?_dropWhile {α : Type} {test : α → Bool} {items : List α} {first : α}
    (found : (items.dropWhile test).head? = some first) : test first = false := by
  have stopped := List.head?_dropWhile_not test items
  rw [found] at stopped
  exact stopped

/-- A string is a word, and then, unless it ends there, spaces with a further string behind them. -/
theorem exists_words (pieces : List Piece) : ∃ word gaps others,
    pieces = word ++ (gaps ++ others) ∧ (∀ piece ∈ word, ¬IsGap piece) ∧
      (∀ piece ∈ gaps, IsGap piece) ∧ (∀ piece, others.head? = some piece → ¬IsGap piece) ∧
      (gaps = [] → others = []) := by
  refine ⟨pieces.takeWhile (¬IsGap ·), (pieces.dropWhile (¬IsGap ·)).takeWhile (IsGap ·),
    (pieces.dropWhile (¬IsGap ·)).dropWhile (IsGap ·), ?_, ?_, ?_, ?_, ?_⟩
  · rw [List.takeWhile_append_dropWhile, List.takeWhile_append_dropWhile]
  · exact fun piece member => by simpa using List.mem_takeWhile_imp member
  · exact fun piece member => by simpa using List.mem_takeWhile_imp member
  · exact fun piece found => by simpa using head?_dropWhile found
  · intro none
    cases left : pieces.dropWhile (¬IsGap ·) with
    | nil => rfl
    | cons piece others =>
        have gap : IsGap piece := by
          simpa
            using @head?_dropWhile _ (fun piece => decide ¬IsGap piece) pieces piece
              (by rw [left]; rfl)
        rw [left, List.takeWhile_cons_of_pos (by simpa using gap)] at none
        contradiction

theorem rawText_gaps {gaps : List Piece} (each : ∀ piece ∈ gaps, IsGap piece) :
    rawText gaps = contentOf gaps ∧ ∀ character ∈ rawText gaps, character = ' ' := by
  induction gaps with
  | nil => exact ⟨rfl, List.forall_mem_nil _⟩
  | cons piece gaps induction =>
      obtain ⟨first, others⟩ := List.forall_mem_cons.mp each
      obtain ⟨same, spaces⟩ := induction others
      have single : piece.character = ' ' := by
        cases piece with
        | plain character printed unquoted unescaped => exact (List.cons.inj first).1
        | _ => cases first
      rw [rawText_cons, same, show piece.text = [' '] from first]
      refine ⟨?_, List.forall_mem_cons.mpr ⟨rfl, same ▸ spaces⟩⟩
      rw [contentOf, contentOf, List.map_cons, single]
      rfl

theorem takeQuotedSpace_eq {spaces : List Char} {first : Char}
    (each : ∀ character ∈ spaces, character = ' ') (starts : cursor.rest = spaces ++ first :: rest)
    (solid : (first == ' ' || first == '\t') = false) (unbroken : isBreak first = false) :
    takeQuotedSpace cursor = .ok (spaces, cursor.advance spaces.length) := by
  have spans : cursor.span (fun character => character == ' ' || character == '\t') =
      (spaces, cursor.advance spaces.length) := by
    refine span_eq starts (fun character member => by rw [each character member]; rfl) ?_
    intro character found
    obtain rfl := Option.some.inj found
    exact solid
  have peeks : (cursor.advance spaces.length).peek = some first := by
    rw [peek_eq, advance_rest starts]
    rfl
  rw [takeQuotedSpace, spans]
  simp only [peeks, unbroken, Bool.false_eq_true, if_false]
  rfl

theorem length_le_rawText (pieces : List Piece) : pieces.length ≤ (rawText pieces).length := by
  induction pieces with
  | nil => exact Nat.le_refl 0
  | cons piece pieces induction =>
      have filled : 0 < piece.text.length := by cases piece <;> exact Nat.succ_pos _
      rw [rawText_cons, List.length_cons, List.length_append]
      omega

/-- A string is taken word by word. -/
theorem takeQuotedRest_pieces {pieces : List Piece} (portable : PortableString pieces)
    (starts : cursor.rest = rawText pieces ++ '"' :: rest) (enough : pieces.length < fuel) :
    takeQuotedRest true fuel cursor =
      .ok (contentOf pieces, cursor.advance (rawText pieces ++ ['"']).length) := by
  induction fuel generalizing cursor pieces with
  | zero => exact absurd enough (Nat.not_lt_zero _)
  | succ fuel induction =>
      obtain ⟨word, gaps, others, rfl, solid, spaced, stopped, ended⟩ := exists_words pieces
      obtain ⟨wordPortable, behind⟩ := List.forall_mem_append.mp portable
      obtain ⟨-, othersPortable⟩ := List.forall_mem_append.mp behind
      obtain ⟨same, spaces⟩ := rawText_gaps spaced
      have within : word.length < cursor.rest.length + 1 := by
        have shorter := length_le_rawText word
        rw [starts, rawText_append, List.append_assoc, List.length_append]
        omega
      rw [takeQuotedRest]
      cases gaps with
      | nil =>
          obtain rfl := ended rfl
          rw [List.append_nil, List.append_nil] at starts ⊢
          have peeks : (cursor.advance (rawText word).length).peek = some '"' := by
            rw [peek_eq, advance_rest starts]
            rfl
          rw [takeQuotedWord_pieces wordPortable solid starts (.inl rfl) within, advance_append]
          simp only [bind, Except.bind, peeks, if_true, beq_self_eq_true]
          rfl
      | cons gap gaps =>
          obtain ⟨first, tail, head, unspaced, unbroken⟩ := solid_head othersPortable stopped rest
          rw [rawText_append, List.append_assoc, rawText_append, List.append_assoc] at starts
          have gapText : gap.text = [' '] := spaced gap List.mem_cons_self
          have atGap : cursor.rest = rawText word ++
            ' ' :: (rawText gaps ++ (rawText others ++ '"' :: rest)) := by
            rw [starts, rawText_cons, gapText]
            rfl
          have behindWord := advance_rest starts
          have behindGaps := advance_rest behindWord
          have peeks : (cursor.advance (rawText word).length).peek = some ' ' := by
            rw [peek_eq, advance_rest atGap]
            rfl
          rw [takeQuotedWord_pieces wordPortable solid atGap (.inr rfl) within]
          rw [head] at behindWord
          have space := takeQuotedSpace_eq spaces behindWord unspaced unbroken
          have further := induction othersPortable behindGaps (by
            simp only [List.length_append, List.length_cons] at enough
            omega)
          simp only [bind, Except.bind, peeks, space, further]
          rw [if_neg (by decide)]
          simp only [contentOf_append, rawText_append, advance_append, same, List.append_assoc]
          rfl

/-- A string in quotes is one scalar. -/
theorem takeQuotedScalar_quoted {pieces : List Piece} (portable : PortableString pieces)
    (starts : cursor.rest = quoted pieces ++ rest) :
    takeQuotedScalar true cursor =
      .ok (.scalar (String.ofList (contentOf pieces)) false,
        cursor.advance (quoted pieces).length) := by
  have split : cursor.rest = ['"'] ++ (rawText pieces ++ '"' :: rest) := by
    rw [starts, quoted, List.cons_append, List.append_assoc]
    rfl
  have enough : pieces.length < cursor.rest.length + 1 := by
    have shorter := length_le_rawText pieces
    rw [split, List.length_append, List.length_append]
    omega
  have taken := takeQuotedRest_pieces portable (advance_rest split) enough
  rw [takeQuotedScalar, show cursor.step = cursor.advance ['"'].length from rfl,
    taken, ← advance_append]
  rfl

/-- The characters of numbers and words: none of them ends a plain scalar, wherever it stands. -/
def isWordCharacter (character : Char) : Bool :=
  !(endsToken (some character) || character == ':' || character == '#' ||
    character == byteOrderMark ||
    oneOf ",?[]\x7b\x7d" character)

/-- What closes a value of a collection. -/
def Closes (character : Char) : Prop :=
  character = ',' ∨ character = ']' ∨ character = '\x7d'

theorem endsPlain_of_closes {character : Char} (closes : Closes character) (next : Option Char) :
    endsPlain true character next = true := by
  rw [endsPlain, Bool.or_eq_true]
  refine .inr ?_
  rcases closes with rfl | rfl | rfl <;> decide

theorem endsPlain_of_isBlank {character : Char} (blank : isBlank character = true)
    (next : Option Char) :
    endsPlain true character next = true := by
  have ends : endsToken (some character) = true := by
    simp only [isBlank, Bool.or_eq_true, beq_iff_eq] at blank
    rcases blank with (rfl | rfl) | rfl <;> decide
  rw [endsPlain, ends, Bool.true_or, Bool.true_or]

theorem endsPlain_of_isWordCharacter {character : Char} (plain : isWordCharacter character = true)
    (next : Option Char) : endsPlain true character next = false := by
  simp only [isWordCharacter, Bool.not_eq_true', Bool.or_eq_false_iff, beq_eq_false_iff_ne] at plain
  simp [endsPlain, plain]

theorem plainLength_word {word : List Char} {stop : Char}
    (plain : ∀ character ∈ word, isWordCharacter character = true)
    (ends : isBlank stop = true ∨ Closes stop) (rest : List Char) :
    plainLength true (word ++ stop :: rest) = word.length := by
  induction word with
  | nil =>
      rw [List.nil_append, plainLength, if_pos]
      · rfl
      · rcases ends with blank | closes
        · exact endsPlain_of_isBlank blank _
        · exact endsPlain_of_closes closes _
  | cons character word induction =>
      obtain ⟨first, others⟩ := List.forall_mem_cons.mp plain
      rw [List.cons_append, plainLength, if_neg (by simp [endsPlain_of_isWordCharacter first]),
        induction others]
      rfl

theorem not_atSeparator {character : Char} (starts : cursor.rest = character :: rest)
    (noDash : character ≠ '-') (noPoint : character ≠ '.') : cursor.atSeparator = false := by
  rw [atSeparator, atMarks, atMarks, starts]
  simp [noDash, noPoint]

theorem Closes.not_isBlank {character : Char} (closes : Closes character) :
    isBlank character = false := by
  rcases closes with rfl | rfl | rfl <;> decide

theorem Closes.not_isBreak {character : Char} (closes : Closes character) :
    isBreak character = false := by
  rcases closes with rfl | rfl | rfl <;> decide

/-- Where a value is closed behind blanks stands no separator of documents. -/
theorem not_atSeparator_blanks {blank : List Char} {stop : Char} (closes : Closes stop)
    (blanks : Blanks (stop :: rest) blank) (starts : cursor.rest = blank ++ stop :: rest) :
    cursor.atSeparator = false := by
  cases blank with
  | nil =>
      rcases closes with rfl | rfl | rfl <;> exact not_atSeparator starts (by decide) (by decide)
  | cons character blank =>
      have first := blanks.isBlank_of_mem character List.mem_cons_self
      refine not_atSeparator starts ?_ ?_
      all_goals
        rintro rfl
        exact absurd first (by decide)

theorem head?_ne_space {stop : Char} (closes : Closes stop) : (stop :: rest).head? ≠ some ' ' := by
  intro found
  obtain rfl := Option.some.inj found
  exact absurd closes.not_isBlank (by decide)

theorem takePlainBreaks_blanks {blank : List Char} {stop : Char} (closes : Closes stop)
    (blanks : Blanks (stop :: rest) blank) (starts : cursor.rest = blank ++ stop :: rest)
    (enough : blank.length < fuel) :
    ∃ breaks, takePlainBreaks fuel cursor = (some breaks, cursor.advance blank.length) := by
  induction blanks generalizing cursor fuel with
  | line each =>
      obtain ⟨fuel, rfl⟩ := Nat.exists_eq_succ_of_ne_zero (Nat.ne_zero_of_lt enough)
      refine ⟨[], ?_⟩
      rw [takePlainBreaks, (skipSpaces_eq each starts (head?_ne_space closes)).2, peek_eq,
        advance_rest starts]
      simp [closes.not_isBreak]
  | @lines spaces lineBreak blank each breaks others induction =>
      obtain ⟨fuel, rfl⟩ := Nat.exists_eq_succ_of_ne_zero (Nat.ne_zero_of_lt enough)
      simp only [List.append_assoc] at starts
      have behindSpaces := advance_rest starts
      have behindBreak := advance_rest behindSpaces
      have shorter : blank.length < fuel := by
        have := breaks.length_pos
        simp only [List.length_append] at enough
        omega
      obtain ⟨further, taken⟩ := induction behindBreak shorter
      refine ⟨['\n'] :: further, ?_⟩
      rw [takePlainBreaks, (skipSpaces_eq each starts breaks.head?_ne).2]
      dsimp only
      rw [if_pos (breaks.peek behindSpaces), takeBreak_eq behindSpaces breaks]
      simp only [not_atSeparator_blanks closes others behindBreak,
        Bool.false_eq_true, if_false, taken, advance_append]
      rfl

/-- The blanks behind a number or word are passed with it. -/
theorem takePlainSpace_blanks {blank : List Char} {stop : Char} (closes : Closes stop)
    (blanks : Blanks (stop :: rest) blank) (starts : cursor.rest = blank ++ stop :: rest) :
    ∃ space ended, takePlainSpace cursor = (space, ended, cursor.advance blank.length) := by
  cases blanks with
  | line each =>
      refine ⟨blank, false, ?_⟩
      rw [takePlainSpace, (skipSpaces_eq each starts (head?_ne_space closes)).1]
      dsimp only
      rw [peek_eq, advance_rest starts]
      simp [closes.not_isBreak]
  | @lines spaces lineBreak blank each breaks others =>
      simp only [List.append_assoc] at starts
      have behindSpaces := advance_rest starts
      have behindBreak := advance_rest behindSpaces
      have shorter : blank.length < (blank ++ stop :: rest).length + 1 := by
        rw [List.length_append]
        omega
      obtain ⟨further, taken⟩ := takePlainBreaks_blanks closes others behindBreak shorter
      rw [← behindBreak] at taken
      rw [takePlainSpace, (skipSpaces_eq each starts breaks.head?_ne).1]
      dsimp only
      rw [if_pos (breaks.peek behindSpaces), takeBreak_eq behindSpaces breaks]
      simp only [not_atSeparator_blanks closes others behindBreak,
        Bool.false_eq_true, if_false, taken, advance_append]
      exact ⟨_, _, rfl⟩

/-- Where a value is closed stands no further word. -/
theorem takePlainWords_closed {stop : Char} (closes : Closes stop)
    (starts : cursor.rest = stop :: rest)
    (fuel : Nat) (indent : Int) (space : List Char) (ended : Bool) :
    takePlainWords true indent fuel space ended cursor = ([], ended, cursor) := by
  cases fuel with
  | zero => rfl
  | succ fuel =>
      have none : plainLength true cursor.rest = 0 := by
        rw [starts, plainLength, if_pos (endsPlain_of_closes closes _)]
      rw [takePlainWords, none]
      simp

/-- A number or a word is one scalar. -/
theorem takePlainScalar_word {word blank : List Char} {stop : Char} (filled : word ≠ [])
    (plain : ∀ character ∈ word, isWordCharacter character = true) (closes : Closes stop)
    (blanks : Blanks (stop :: rest) blank) (starts : cursor.rest = word ++ (blank ++ stop :: rest))
    (outer : Int) :
    ∃ ended, takePlainScalar true outer cursor =
      (.scalar (String.ofList word) true, ended, cursor.advance (word ++ blank).length) := by
  have behindWord := advance_rest starts
  have behind := advance_rest behindWord
  obtain ⟨space, ended, passed⟩ := takePlainSpace_blanks closes blanks behindWord
  have length : plainLength true cursor.rest = word.length := by
    rw [starts]
    cases blank with
    | nil => exact plainLength_word plain (.inr closes) rest
    | cons first blank =>
        exact plainLength_word plain (.inl (blanks.isBlank_of_mem first List.mem_cons_self)) _
  have unmarked : cursor.peek ≠ some '#' := by
    rw [peek_eq, starts]
    obtain ⟨first, others, rfl⟩ := List.exists_cons_of_ne_nil filled
    intro marked
    obtain rfl := Option.some.inj marked
    exact absurd (plain '#' List.mem_cons_self) (by decide)
  have taken : takePlainWords true (outer + 1) (cursor.rest.length + 1) [] false cursor =
      (word, ended, cursor.advance (word ++ blank).length) := by
    have some : (if cursor.peek == some '#' then 0
      else plainLength true cursor.rest) = word.length := by
      rw [if_neg (by simpa using unmarked), length]
    have text : cursor.rest.take word.length = word := by rw [starts, List.take_left]
    rw [takePlainWords]
    simp only [some, text, passed]
    rw [if_neg (by simpa using filled), ← advance_append]
    split
    · rfl
    · rw [takePlainWords_closed closes (by rw [advance_append]; exact behind)]
      simp
  exact ⟨ended, by rw [takePlainScalar, taken]⟩

end ApiCompiler.Yaml
