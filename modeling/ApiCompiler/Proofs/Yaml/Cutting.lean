import ApiCompiler.Proofs.Yaml.Lexeme

/-!
# Cutting flow collections

The steps in which a YAML text is cut into the tokens of flow collections, of strings in quotes and
of numbers and words. No block opens or closes there, and what may turn out to be a key need never
be one.
-/

namespace ApiCompiler.Yaml

open Cursor Json

namespace Cutting

variable {cutting arrived : Cutting} {depth : Nat} {tokens : List Token} {text rest : List Char}

/-- Cutting stands in front of a text, blanks aside, inside of flow collections at most. -/
structure Stands (depth : Nat) (tokens : List Token) (text : List Char)
    (cutting : Cutting) : Prop where
  rest : ∃ blank, (∀ character ∈ blank, isBlank character = true) ∧
    cutting.cursor.rest = blank ++ text
  tokens : cutting.tokens = tokens
  depth : cutting.depth = depth
  indent : cutting.indent = -1
  outer : cutting.outerIndents = []
  loose : ∀ entry ∈ cutting.possibleKeys, entry.2.required = false

/-- One cutting goes on to the tokens that another one goes on to, which has less text in front of
it. -/
def Leads (before after : Cutting) : Prop :=
  ∀ fuel, before.cursor.rest.length < fuel →
    ∃ further, after.cursor.rest.length < further ∧ before.all fuel = after.all further

theorem Leads.trans {before middle after : Cutting} (first : Leads before middle)
    (second : Leads middle after) : Leads before after := by
  intro fuel enough
  obtain ⟨further, within, same⟩ := first fuel enough
  obtain ⟨last, left, equal⟩ := second further within
  exact ⟨last, left, same.trans equal⟩

theorem all_of_next {before after : Cutting} (taken : before.next = .ok after) (fuel : Nat) :
    before.all (fuel + 1) = if after.isDone then after.tokens.reverse else after.all fuel := by
  conv_lhs => unfold all
  rw [taken]

theorem leads_of_next {before after : Cutting} (taken : before.next = .ok after)
    (goesOn : after.isDone = false)
    (shorter : after.cursor.rest.length < before.cursor.rest.length) :
    Leads before after := by
  intro fuel enough
  obtain ⟨fuel, rfl⟩ := Nat.exists_eq_succ_of_ne_zero (Nat.ne_zero_of_lt enough)
  refine ⟨fuel, by omega, ?_⟩
  rw [all_of_next taken, goesOn, if_neg Bool.false_ne_true]

/-- A character that a token begins with: no blank, no comment and no mark of the byte order. -/
structure Begins (character : Char) : Prop where
  filled : isBlank character = false
  unbroken : isBreak character = false
  noComment : character ≠ '#'
  unmarked : character ≠ byteOrderMark

theorem skipComment_eq {cursor : Cursor} (noComment : cursor.peek ≠ some '#') :
    cursor.skipComment = cursor := by
  rw [skipComment, if_neg (by simpa using noComment)]

/-- Outside of all blocks none is closed. -/
theorem unwind_eq (outer : cutting.outerIndents = []) (column : Int) :
    cutting.unwind column = cutting := by
  unfold unwind
  split
  · rfl
  · rw [outer, closeBlocks]
    obtain ⟨_, _, _, _, _, _, _⟩ := cutting
    cases outer
    rfl

section Blank

variable (begins : ∀ character, text.head? = some character → Begins character)

include begins

theorem head?_ne_of_begins {character : Char} (blank : isBlank character = true) :
    text.head? ≠ some character := by
  intro found
  rw [(begins character found).filled] at blank
  contradiction

theorem passBlank_blanks {blank : List Char} (blanks : Blanks text blank) {fuel : Nat}
    (starts : cutting.cursor.rest = blank ++ text) (enough : blank.length < fuel) :
    ∃ allowed, (cutting.allowsKey = true → allowed = true) ∧ passBlank fuel cutting =
      { cutting with cursor := cutting.cursor.advance blank.length, allowsKey := allowed } := by
  induction blanks generalizing cutting fuel with
  | @line spaces each =>
      obtain ⟨fuel, rfl⟩ := Nat.exists_eq_succ_of_ne_zero (Nat.ne_zero_of_lt enough)
      have behind := advance_rest starts
      have noComment : (cutting.cursor.advance spaces.length).peek ≠ some '#' := by
        rw [peek_eq, behind]
        exact fun found => (begins '#' found).noComment rfl
      have unbroken : (cutting.cursor.advance spaces.length).peek.any isBreak = false := by
        rw [peek_eq, behind]
        cases found : text.head? with
        | none => rfl
        | some character => exact (begins character found).unbroken
      refine ⟨cutting.allowsKey, id, ?_⟩
      rw [passBlank, (skipSpaces_eq each starts (head?_ne_of_begins begins (by decide))).2,
        skipComment_eq noComment]
      rw [unbroken]
      rfl
  | @lines spaces lineBreak blank each breaks others induction =>
      obtain ⟨fuel, rfl⟩ := Nat.exists_eq_succ_of_ne_zero (Nat.ne_zero_of_lt enough)
      simp only [List.append_assoc] at starts
      have behindSpaces := advance_rest starts
      have behindBreak := advance_rest behindSpaces
      have noComment : (cutting.cursor.advance spaces.length).peek ≠ some '#' := by
        rw [peek_eq, behindSpaces]
        exact fun found => absurd (breaks.isBreak_of_head? found) (by decide)
      have shorter : blank.length < fuel := by
        have := breaks.length_pos
        simp only [List.length_append] at enough
        omega
      rw [passBlank, (skipSpaces_eq each starts breaks.head?_ne).2, skipComment_eq noComment]
      rw [if_pos (breaks.peek behindSpaces), takeBreak_eq behindSpaces breaks]
      obtain ⟨allowed, allows, passed⟩ := @induction { cutting with
        cursor := (cutting.cursor.advance spaces.length).advance lineBreak.length
        allowsKey := cutting.allowsKey || !cutting.inFlow } fuel behindBreak shorter
      refine ⟨allowed, fun given => allows (by rw [given]; rfl), ?_⟩
      rw [passed, advance_append, advance_append]

theorem unmarked_start {blank : List Char} (each : ∀ character ∈ blank, isBlank character = true)
    {cursor : Cursor} (starts : cursor.rest = blank ++ text) :
    (cursor.index == 0 && cursor.peek == some byteOrderMark) = false := by
  rw [Bool.and_eq_false_imp]
  intro _
  rw [beq_eq_false_iff_ne, peek_eq, starts]
  cases blank with
  | nil => exact fun found => (begins byteOrderMark found).unmarked rfl
  | cons character blank =>
      intro found
      obtain rfl := Option.some.inj found
      exact absurd (each byteOrderMark List.mem_cons_self) (by decide)

/-- Cutting comes to what stands behind blanks. -/
theorem exists_arrived (stands : Stands depth tokens text cutting) :
    ∃ blank arrived, (∀ character ∈ blank, isBlank character = true) ∧
      cutting.cursor.rest = blank ++ text ∧ arrived.cursor = cutting.cursor.advance blank.length ∧
      arrived.possibleKeys =
        (cutting.possibleKeys.filter fun entry => !isStale arrived.cursor entry.2) ∧
      (cutting.allowsKey = true → arrived.allowsKey = true) ∧ arrived.cursor.rest = text ∧
      Stands depth tokens text arrived ∧
      cutting.next = match text.head? with
        | none => arrived.takeStreamEnd
        | some character => arrived.takeToken character := by
  obtain ⟨blank, each, starts⟩ := stands.rest
  have blanks := Blanks.of_forall (head?_ne_of_begins begins (by decide)) each
  have behind := advance_rest starts
  have enough : blank.length < cutting.cursor.rest.length + 1 := by
    rw [starts, List.length_append]
    omega
  obtain ⟨allowed, allows, passed⟩ := passBlank_blanks begins blanks starts enough
  let arrived : Cutting := { cutting with
    cursor := cutting.cursor.advance blank.length
    allowsKey := allowed
    possibleKeys := cutting.possibleKeys.filter fun entry =>
      !isStale (cutting.cursor.advance blank.length) entry.2 }
  have unstuck : ((cutting.possibleKeys.filter fun entry =>
      isStale (cutting.cursor.advance blank.length) entry.2).any (·.2.required)) = false := by
    rw [List.any_eq_false]
    exact fun entry member => by simp [stands.loose entry (List.mem_of_mem_filter member)]
  have dropped : cutting.toNextToken.dropStaleKeys = .ok arrived := by
    rw [toNextToken, unmarked_start begins each starts]
    simp only [Bool.false_eq_true, if_false]
    rw [passed, dropStaleKeys]
    simp only [List.partition_eq_filter_filter, unstuck]
    rfl
  have unwound : arrived.unwind arrived.cursor.column = arrived :=
    @unwind_eq arrived stands.outer _
  refine ⟨blank, arrived, each, starts, rfl, rfl, allows, behind, ?_, ?_⟩
  · exact ⟨⟨[], List.forall_mem_nil _, behind⟩, stands.tokens, stands.depth, stands.indent,
      stands.outer, fun entry member => stands.loose entry (List.mem_of_mem_filter member)⟩
  · rw [next, dropped]
    simp only [bind, Except.bind]
    rewrite [unwound, peek_eq, show arrived.cursor.rest = text from behind]
    cases text.head? <;> rfl

end Blank

/-- One token is taken behind blanks. -/
theorem exists_taken {first : Char} {others : List Char} (begins : Begins first)
    (stands : Stands depth tokens (first :: others ++ rest) cutting) :
    ∃ arrived, Stands depth tokens (first :: others ++ rest) arrived ∧
      arrived.cursor.rest = first :: others ++ rest ∧
      (cutting.allowsKey = true → arrived.allowsKey = true) ∧
      ∀ token further allowed keys, token ≠ .streamEnd →
        (∀ entry ∈ keys, entry.2.required = false) →
          ∀ after : Cutting, arrived.takeToken first = .ok after →
            after = { arrived with
              cursor := arrived.cursor.advance (first :: others).length
              tokens := token :: tokens
              depth := further
              allowsKey := allowed
              possibleKeys := keys } →
            Leads cutting after ∧ Stands further (token :: tokens) rest after := by
  have starting : ∀ character, (first :: others ++ rest).head? = some character →
    Begins character := by
    intro character found
    obtain rfl := Option.some.inj found
    exact begins
  obtain ⟨blank, arrived, _, starts, -, -, allows, behind, there, taken⟩ :=
    exists_arrived starting stands
  refine ⟨arrived, there, behind, allows, ?_⟩
  rintro token further allowed keys goesOn loose after takes rfl
  have rest_eq := advance_rest behind
  constructor
  · refine leads_of_next (taken.trans takes) ?_ ?_
    · simpa [isDone] using goesOn
    · rw [rest_eq, starts]
      simp only [List.length_append, List.length_cons]
      omega
  · exact ⟨⟨[], List.forall_mem_nil _, rest_eq⟩, rfl, rfl, there.indent, there.outer, loose⟩

section Keys

variable (stands : Stands depth tokens text cutting)

include stands

theorem dropKey_eq : cutting.dropKey = .ok cutting.forgetKey := by
  have unneeded : cutting.possibleKey?.any (·.required) = false := by
    unfold possibleKey?
    cases found : cutting.possibleKeys.find? (·.1 == cutting.depth) with
    | none => rfl
    | some entry => exact stands.loose entry (List.mem_of_find?_eq_some found)
  rw [dropKey, unneeded]
  rfl

theorem forgetKey_loose : ∀ entry ∈ cutting.forgetKey.possibleKeys, entry.2.required = false :=
  fun entry member => stands.loose entry (List.mem_of_mem_filter member)

/-- A key that is noted could be done without. -/
theorem noteKey_eq (allowed : cutting.allowsKey = true) :
    cutting.noteKey = .ok { cutting with possibleKeys :=
      (cutting.depth, ⟨cutting.tokens.length, false, cutting.cursor.index, cutting.cursor.line,
        cutting.cursor.column⟩) :: cutting.forgetKey.possibleKeys } := by
  have outside : (cutting.indent == (cutting.cursor.column : Int)) = false := by
    rw [stands.indent, beq_eq_false_iff_ne]
    omega
  rw [noteKey, if_pos allowed, dropKey_eq stands]
  dsimp only
  rw [outside, Bool.and_false]
  rfl

theorem exists_noted : ∃ keys, (∀ entry ∈ keys, entry.2.required = false) ∧
    cutting.noteKey = .ok { cutting with possibleKeys := keys } := by
  by_cases allowed : cutting.allowsKey = true
  · exact ⟨_, List.forall_mem_cons.mpr ⟨rfl, forgetKey_loose stands⟩, noteKey_eq stands allowed⟩
  · refine ⟨cutting.possibleKeys, stands.loose, ?_⟩
    rw [noteKey, if_neg allowed]
    rfl

end Keys

/-! ## Marks -/

theorem inFlow_succ (stands : Stands (depth + 1) tokens text cutting) : cutting.inFlow = true := by
  rw [inFlow, stands.depth]
  exact bne_iff_ne.mpr (Nat.succ_ne_zero depth)

theorem begins_of_decide {character : Char}
    (apart : ((isBlank character || isBreak character) ||
      (character == '#' || character == byteOrderMark)) =
      false) : Begins character := by
  simp only [Bool.or_eq_false_iff, beq_eq_false_iff_ne] at apart
  exact ⟨apart.1.1, apart.1.2, apart.2.1, apart.2.2⟩

theorem atMarks_eq_false {cursor : Cursor} {first mark : Char}
    (starts : cursor.rest = first :: rest)
    (other : first ≠ mark) : cursor.atMarks mark = false := by
  rw [atMarks, starts]
  simp [other]

/-- A collection opens, and a key may begin in it. -/
theorem exists_opened {mark : Char} {token : Token}
    (opens : mark = '[' ∧ token = .flowSequenceStart ∨ mark = '\x7b' ∧ token = .flowMappingStart)
    (stands : Stands depth tokens (mark :: text) cutting) :
    ∃ after, Leads cutting after ∧ Stands (depth + 1) (token :: tokens) text after ∧
      after.allowsKey = true := by
  have begins : Begins mark := by
    obtain ⟨rfl, -⟩ | ⟨rfl, -⟩ := opens <;> exact begins_of_decide (by decide)
  obtain ⟨arrived, there, starts, -, goesOn⟩ :=
    @exists_taken cutting depth tokens text mark [] begins stands
  obtain ⟨keys, loose, noted⟩ := exists_noted there
  have taken : arrived.takeToken mark = arrived.takeFlowStart token := by
    obtain ⟨rfl, rfl⟩ | ⟨rfl, rfl⟩ := opens
    all_goals simp [takeToken, atMarks_eq_false starts]
  have opened : arrived.takeFlowStart token = .ok { arrived with
      cursor := arrived.cursor.advance 1
      tokens := token :: tokens
      depth := depth + 1
      allowsKey := true
      possibleKeys := keys } := by
    rw [takeFlowStart, noted, ← there.tokens, ← there.depth]
    rfl
  have notEnd : token ≠ .streamEnd := by
    obtain ⟨-, rfl⟩ | ⟨-, rfl⟩ := opens <;> decide
  obtain ⟨leads, next⟩ := goesOn token _ _ keys notEnd loose _ (taken.trans opened) rfl
  exact ⟨_, leads, next, rfl⟩

/-- A collection closes. -/
theorem exists_closed {mark : Char} {token : Token}
    (closes : mark = ']' ∧ token = .flowSequenceEnd ∨ mark = '\x7d' ∧ token = .flowMappingEnd)
    (stands : Stands (depth + 1) tokens (mark :: text) cutting) :
    ∃ after, Leads cutting after ∧ Stands depth (token :: tokens) text after := by
  have begins : Begins mark := by
    obtain ⟨rfl, -⟩ | ⟨rfl, -⟩ := closes <;> exact begins_of_decide (by decide)
  obtain ⟨arrived, there, starts, -, goesOn⟩ :=
    @exists_taken cutting (depth + 1) tokens text mark [] begins stands
  have taken : arrived.takeToken mark = arrived.takeFlowEnd token := by
    obtain ⟨rfl, rfl⟩ | ⟨rfl, rfl⟩ := closes
    all_goals simp [takeToken, atMarks_eq_false starts]
  have closed : arrived.takeFlowEnd token = .ok { arrived with
      cursor := arrived.cursor.advance 1
      tokens := token :: tokens
      depth := depth
      allowsKey := false
      possibleKeys := arrived.forgetKey.possibleKeys } := by
    have inFlow : arrived.inFlow = true := inFlow_succ there
    rw [takeFlowEnd, dropKey_eq there]
    simp only [bind, Except.bind]
    rw [if_pos (show arrived.forgetKey.inFlow = true from inFlow), ← there.tokens]
    have depth_eq : arrived.depth - 1 = depth := by rw [there.depth, Nat.add_sub_cancel]
    rw [← depth_eq]
    rfl
  have notEnd : token ≠ .streamEnd := by
    obtain ⟨-, rfl⟩ | ⟨-, rfl⟩ := closes <;> decide
  obtain ⟨leads, next⟩ :=
    goesOn token _ _ _ notEnd (forgetKey_loose there) _ (taken.trans closed) rfl
  exact ⟨_, leads, next⟩

/-- A comma stands between parts, and a key may begin behind it. -/
theorem exists_separated (stands : Stands depth tokens (',' :: text) cutting) :
    ∃ after, Leads cutting after ∧ Stands depth (.flowEntry :: tokens) text after ∧
      after.allowsKey = true := by
  obtain ⟨arrived, there, starts, -, goesOn⟩ :=
    @exists_taken cutting depth tokens text ',' [] (begins_of_decide (by decide)) stands
  have taken : arrived.takeToken ',' = arrived.takeFlowEntry := by
    simp [takeToken, atMarks_eq_false starts]
  have separated : arrived.takeFlowEntry = .ok { arrived with
      cursor := arrived.cursor.advance 1
      tokens := .flowEntry :: tokens
      depth := depth
      allowsKey := true
      possibleKeys := arrived.forgetKey.possibleKeys } := by
    rw [takeFlowEntry, dropKey_eq there, ← there.tokens, ← there.depth]
    rfl
  obtain ⟨leads, next⟩ :=
    goesOn .flowEntry _ _ _ (by decide) (forgetKey_loose there) _ (taken.trans separated) rfl
  exact ⟨_, leads, next, rfl⟩

theorem takeToken_quoted {pieces : List Piece} {keys : List (Nat × PossibleKey)}
    (portable : PortableString pieces) (stands : Stands depth tokens text cutting)
    (starts : cutting.cursor.rest = quoted pieces ++ rest)
    (noted : cutting.noteKey = .ok { cutting with possibleKeys := keys }) :
    cutting.takeToken '"' = .ok { cutting with
      cursor := cutting.cursor.advance (quoted pieces).length
      tokens := .scalar (String.ofList (contentOf pieces)) false :: tokens
      depth := depth
      allowsKey := false
      possibleKeys := keys } := by
  have taken : cutting.takeToken '"' = cutting.takeNoted (takeQuotedScalar true) := by
    simp [takeToken, atMarks_eq_false starts]
  rw [taken, takeNoted, noted, ← stands.tokens, ← stands.depth]
  simp only [bind, Except.bind, allowKey, takeLexeme, takeQuotedScalar_quoted portable starts]
  rfl

/-- A string in quotes. -/
theorem exists_string {pieces : List Piece} (portable : PortableString pieces)
    (stands : Stands depth tokens (quoted pieces ++ text) cutting) :
    ∃ after, Leads cutting after ∧
      Stands depth (.scalar (String.ofList (contentOf pieces)) false :: tokens) text after := by
  obtain ⟨arrived, there, starts, -, goesOn⟩ := @exists_taken cutting depth tokens text '"'
    (rawText pieces ++ ['"']) (begins_of_decide (by decide)) stands
  obtain ⟨keys, loose, noted⟩ := exists_noted there
  obtain ⟨leads, next⟩ :=
    goesOn _ _ _ keys (by simp) loose _ (takeToken_quoted portable there starts noted) rfl
  exact ⟨_, leads, next⟩

/-- What the text of a number or of a word begins with: no mark, except for a minus sign in front of
what is neither a blank nor a further one. -/
def BeginsWord : List Char → Prop
  | [] => False
  | first :: others =>
    isIndicator first = false ∧ first ≠ '.' ∨
      first = '-' ∧ ∃ next, others.head? = some next ∧ endsToken (some next) = false ∧ next ≠ '-'

theorem takeToken_word {first : Char} {others : List Char} (plain : isWordCharacter first = true)
    (begins : BeginsWord (first :: others))
    (starts : cutting.cursor.rest = first :: others ++ rest) :
    cutting.takeToken first = cutting.takePlain := by
  simp only [isWordCharacter, Bool.not_eq_true', Bool.or_eq_false_iff] at plain
  have filled := plain.1.1.1.1
  obtain ⟨unmarked, noPoint⟩ | ⟨rfl, next, follows, solid, single⟩ := begins
  · have apart : ∀ mark, isIndicator mark = true → first ≠ mark := by
      rintro mark marked rfl
      rw [unmarked] at marked
      contradiction
    have noDash := apart '-' (by decide)
    simp [takeToken, beginsPlain, filled, unmarked, noDash, atMarks_eq_false starts, noPoint,
      apart '%' (by decide), apart '[' (by decide), apart '\x7b' (by decide), apart ']' (by decide),
      apart '\x7d' (by decide), apart ',' (by decide), apart '?' (by decide), apart ':' (by decide),
      apart '*' (by decide), apart '&' (by decide), apart '!' (by decide), apart '|' (by decide),
      apart '>' (by decide), apart '\'' (by decide), apart '"' (by decide)]
  · obtain ⟨tail, rfl⟩ := List.head?_eq_some_iff.mp follows
    have peeks : cutting.cursor.peekAt 1 = some next := by rw [peekAt, starts]; rfl
    have noSeparator : cutting.cursor.atMarks '-' = false := by
      rw [atMarks, starts]
      simp [single]
    simp [takeToken, beginsPlain, peeks, solid, noSeparator, atMarks_eq_false starts]

theorem begins_of_isWordCharacter {character : Char} (plain : isWordCharacter character = true) :
    Begins character := by
  simp only [isWordCharacter, Bool.not_eq_true', Bool.or_eq_false_iff, beq_eq_false_iff_ne] at plain
  obtain ⟨⟨⟨⟨filled, -⟩, noComment⟩, unmarked⟩, -⟩ := plain
  have apart : ∀ blank, endsToken (some blank) = true → character ≠ blank := by
    rintro blank ends rfl
    rw [filled] at ends
    contradiction
  refine ⟨?_, ?_, noComment, unmarked⟩
  · simp [isBlank, apart ' ' (by decide), apart '\n' (by decide), apart '\r' (by decide)]
  · simp [isBreak, apart '\n' (by decide), apart '\r' (by decide), apart '\x85' (by decide),
      apart '\u2028' (by decide), apart '\u2029' (by decide)]

/-- A number or a word, and the blanks behind it. -/
theorem exists_word {word blank : List Char} {stop : Char} (begins : BeginsWord word)
    (plain : ∀ character ∈ word, isWordCharacter character = true) (closes : Closes stop)
    (each : ∀ character ∈ blank, isBlank character = true)
    (stands : Stands (depth + 1) tokens (word ++ (blank ++ stop :: text)) cutting) :
    ∃ after, Leads cutting after ∧
      Stands (depth + 1) (.scalar (String.ofList word) true :: tokens) (stop :: text) after := by
  cases word with
  | nil => exact begins.elim
  | cons first others =>
      have firstPlain := plain first List.mem_cons_self
      rw [← List.append_assoc] at stands
      obtain ⟨arrived, there, starts, -, goesOn⟩ :=
        @exists_taken cutting (depth + 1) tokens (stop :: text)
        first (others ++ blank) (begins_of_isWordCharacter firstPlain) stands
      obtain ⟨keys, loose, noted⟩ := exists_noted there
      rw [← List.cons_append, List.append_assoc] at starts
      have noNewline : (stop :: text).head? ≠ some '\n' := by
        intro found
        obtain rfl := Option.some.inj found
        exact absurd closes.not_isBlank (by decide)
      obtain ⟨ended, read⟩ := takePlainScalar_word (List.cons_ne_nil _ _) plain closes
        (Blanks.of_forall noNewline each) starts arrived.indent
      have cut : arrived.takePlain = .ok { arrived with
          cursor := arrived.cursor.advance (first :: (others ++ blank)).length
          tokens := .scalar (String.ofList (first :: others)) true :: tokens
          depth := depth + 1
          allowsKey := ended
          possibleKeys := keys } := by
        have inFlow : { arrived with possibleKeys := keys : Cutting }.inFlow = true :=
          show arrived.inFlow = true from inFlow_succ there
        rw [takePlain, noted, ← there.tokens, ← there.depth]
        simp only [bind, Except.bind, inFlow, read]
        rfl
      obtain ⟨leads, next⟩ := goesOn _ _ _ keys (by simp) loose _
        ((takeToken_word firstPlain begins starts).trans cut) rfl
      exact ⟨_, leads, next⟩

theorem not_isBreak_of_code {character : Char} {digit : Nat}
    (read : Text.baseDigit? 16 character = some digit) : isBreak character = false := by
  simp only [isBreak, Bool.or_eq_false_iff, beq_eq_false_iff_ne]
  refine ⟨⟨⟨⟨?_, ?_⟩, ?_⟩, ?_⟩, ?_⟩
  all_goals
    rintro rfl
    exact absurd read (by simp [Text.baseDigit?])

theorem not_isBreak_of_escape {letter character : Char} (names : escape? letter = some character) :
    isBreak letter = false := by
  simp only [isBreak, Bool.or_eq_false_iff, beq_eq_false_iff_ne]
  refine ⟨⟨⟨⟨?_, ?_⟩, ?_⟩, ?_⟩, ?_⟩
  all_goals
    rintro rfl
    exact absurd names (by simp [escape?])

theorem piece_unbroken {piece : Piece} (portable : piece.Portable) :
    ∀ character ∈ piece.text, isBreak character = false := by
  cases piece with
  | plain character printed unquoted unescaped => exact List.forall_mem_singleton.mpr portable.2
  | escape letter character names =>
      exact List.forall_mem_cons.mpr
        ⟨by decide, List.forall_mem_singleton.mpr (not_isBreak_of_escape names)⟩
  | code written =>
      obtain ⟨a, b, c, d, number, writes⟩ := written
      simp only [code?, Option.bind_eq_bind, Option.bind_eq_some_iff] at writes
      obtain ⟨_, first, _, second, _, third, _, fourth, -⟩ := writes
      simp only [Piece.text, Code.text, List.forall_mem_cons]
      exact ⟨by decide, by decide, not_isBreak_of_code first, not_isBreak_of_code second,
        not_isBreak_of_code third, not_isBreak_of_code fourth, List.forall_mem_nil _⟩
  | pair => exact portable.elim

/-- A portable string stands on one line. -/
theorem quoted_unbroken {pieces : List Piece} (portable : PortableString pieces) :
    ∀ character ∈ quoted pieces, isBreak character = false := by
  refine List.forall_mem_cons.mpr
    ⟨by decide, List.forall_mem_append.mpr ⟨?_, List.all_iff_forall_prop.mp (by decide)⟩⟩
  exact List.forall_mem_flatMap.mpr fun piece member => piece_unbroken (portable piece member)

/-- A key that is still in reach of the colon is marked in front of it. -/
theorem takeValue_eq {place index line column : Nat}
    {keys : List (Nat × PossibleKey)} {name : Token}
    (stands : Stands (depth + 1) (name :: tokens) text cutting) (place_eq : place = tokens.length)
    (held : cutting.possibleKeys = (depth + 1, ⟨place, false, index, line, column⟩) :: keys) :
    cutting.takeValue = .ok { cutting with
      cursor := cutting.cursor.advance 1
      tokens := .value :: name :: .key :: tokens
      allowsKey := false
      possibleKeys := keys.filter (·.1 != depth + 1) } := by
  have found : cutting.possibleKey? = some ⟨place, false, index, line, column⟩ := by
    rw [possibleKey?, held, stands.depth]
    simp
  have inFlow := inFlow_succ stands
  have inserted : (cutting.forgetKey.insertAt place .key).tokens = name :: .key :: tokens := by
    rw [place_eq, insertAt, forgetKey, stands.tokens]
    simp
  have forgotten : cutting.forgetKey.possibleKeys = keys.filter (·.1 != depth + 1) := by
    rw [forgetKey, held, stands.depth]
    simp
  have opened : (cutting.forgetKey.insertAt place .key).openBlock column place .blockMappingStart =
      cutting.forgetKey.insertAt place .key := by
    have still : (cutting.forgetKey.insertAt place .key).inFlow = true := inFlow
    rw [openBlock, still]
    rfl
  rw [takeValue, found]
  dsimp only
  rw [opened, ← inserted, ← forgotten]
  rfl

theorem isStale_eq_false {written : List Char} {place : Nat} {required : Bool}
    {before after : Cursor}
    (passes : Passes written before after)
    (unbroken : ∀ character ∈ written, isBreak character = false)
    (within : written.length ≤ keyLimit) :
    isStale after ⟨place, required, before.index, before.line, before.column⟩ = false := by
  have index := passes.index
  unfold keyLimit at within
  rw [isStale, passes.line unbroken, bne_self_eq_false, Bool.false_or, decide_eq_false_iff_not]
  dsimp only
  omega

/-- A key and its colon. -/
theorem exists_key {key : List Piece} {before : Blank} (portable : PortableKey key before)
    (allowed : cutting.allowsKey = true)
    (stands : Stands (depth + 1) tokens (quoted key ++ (before.text ++ ':' :: text)) cutting) :
    ∃ after, Leads cutting after ∧ Stands (depth + 1)
      (.value :: .scalar (String.ofList (contentOf key)) false :: .key :: tokens) text after := by
  obtain ⟨arrived, there, starts, allows, goesOn⟩ := @exists_taken cutting (depth + 1) tokens
    (before.text ++ ':' :: text) '"' (rawText key ++ ['"']) (begins_of_decide (by decide)) stands
  have noted := noteKey_eq there (allows allowed)
  obtain ⟨leads, named⟩ :=
    goesOn _ _ _ _ (by simp) (List.forall_mem_cons.mpr ⟨rfl, forgetKey_loose there⟩) _
    (takeToken_quoted portable.pieces there starts noted) rfl
  have behindKey : (arrived.cursor.advance (quoted key).length).rest = before.text ++ ':' :: text :=
    advance_rest starts
  have spaces : ∀ character ∈ before.text, isBlank character = true := by
    intro character member
    rw [portable.spaces character member]
    decide
  have colon : ∀ character, (':' :: text).head? = some character → Begins character := by
    intro character found
    obtain rfl := Option.some.inj found
    exact begins_of_decide (by decide)
  obtain ⟨blank, reached, _, blank_eq, cursor_eq, keys_eq, -, rest_eq, atColon, next⟩ :=
    exists_arrived colon { named with rest := ⟨before.text, spaces, behindKey⟩ }
  obtain rfl : before.text = blank := List.append_cancel_right (behindKey.symm.trans blank_eq)
  have passes : Passes (quoted key ++ before.text) arrived.cursor reached.cursor := by
    rw [cursor_eq, ← advance_append]
    refine @passes_advance _ _ (':' :: text) ?_
    rw [starts, List.append_assoc]
    rfl
  have unbroken : ∀ character ∈ quoted key ++ before.text, isBreak character = false := by
    refine List.forall_mem_append.mpr ⟨quoted_unbroken portable.pieces, fun character member => ?_⟩
    rw [portable.spaces character member]
    decide
  have fresh : isStale reached.cursor ⟨arrived.tokens.length, false, arrived.cursor.index,
      arrived.cursor.line, arrived.cursor.column⟩ = false :=
    isStale_eq_false passes unbroken portable.length
  have held : reached.possibleKeys = (depth + 1,
    ⟨arrived.tokens.length, false, arrived.cursor.index,
      arrived.cursor.line, arrived.cursor.column⟩) ::
        arrived.forgetKey.possibleKeys.filter fun entry => !isStale reached.cursor entry.2 := by
    rw [keys_eq, List.filter_cons_of_pos (by rw [fresh]; rfl), there.depth]
  have marked := takeValue_eq atColon (congrArg List.length there.tokens) held
  have taken : reached.takeToken ':' = reached.takeValue := by
    simp [takeToken, atMarks_eq_false rest_eq, inFlow_succ atColon]
  have behind : (reached.cursor.advance 1).rest = text := @advance_rest _ [':'] _ rest_eq
  refine ⟨_, leads.trans (leads_of_next (next.trans (taken.trans marked)) rfl ?_), ?_⟩
  · rw [behind, behindKey]
    simp only [List.length_append, List.length_cons]
    omega
  · refine ⟨⟨[], List.forall_mem_nil _, behind⟩, rfl, atColon.depth, atColon.indent,
      atColon.outer, ?_⟩
    exact fun entry member =>
      forgetKey_loose there entry (List.mem_of_mem_filter (List.mem_of_mem_filter member))

/-- Behind all, the text ends. -/
theorem all_of_end (stands : Stands depth tokens [] cutting) {fuel : Nat} (enough : 0 < fuel) :
    cutting.all fuel = (.streamEnd :: tokens).reverse := by
  obtain ⟨fuel, rfl⟩ := Nat.exists_eq_succ_of_ne_zero (Nat.ne_of_gt enough)
  have nothing : ∀ character, ([] : List Char).head? = some character → Begins character := by
    intro character found
    contradiction
  obtain ⟨_, reached, _, _, _, _, _, _, atEnd, next⟩ := exists_arrived nothing stands
  have taken : reached.takeStreamEnd = .ok (reached.forgetKey.push .streamEnd) := by
    rw [takeStreamEnd, unwind_eq atEnd.outer, dropKey_eq atEnd]
    rfl
  rw [all_of_next (next.trans taken), ← atEnd.tokens]
  rfl

end Cutting

end ApiCompiler.Yaml
