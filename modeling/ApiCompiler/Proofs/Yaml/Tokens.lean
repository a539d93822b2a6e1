import ApiCompiler.Proofs.Yaml.Cutting

/-!
# Tokens of JSON

The tokens of a value that is written as JSON. A YAML text that is written in portable syntax is cut
into them.
-/

namespace ApiCompiler.Json

open Yaml Cursor Cutting

/-- A word or a number stands for itself. -/
def plainToken (text : List Char) : Token :=
  .scalar (String.ofList text) true

def stringToken (pieces : List Piece) : Token :=
  .scalar (String.ofList (contentOf pieces)) false

mutual

/-- The tokens of a value. -/
def Syntax.tokens : Syntax → List Token
  | .word name _ _ => [plainToken name.toList]
  | .number numeral => [plainToken numeral.text]
  | .string pieces => [stringToken pieces]
  | .emptyArray _ => [.flowSequenceStart, .flowSequenceEnd]
  | .array _ items => .flowSequenceStart :: items.tokens
  | .emptyObject _ => [.flowMappingStart, .flowMappingEnd]
  | .object _ entries => .flowMappingStart :: entries.tokens

/-- The tokens of items and of the bracket behind them. -/
def Items.tokens : Items → List Token
  | .last item _ => item.tokens ++ [.flowSequenceEnd]
  | .more item _ _ items => item.tokens ++ .flowEntry :: items.tokens

/-- The tokens of entries and of the brace behind them. -/
def Entries.tokens : Entries → List Token
  | .last key _ _ value _ =>
    .key :: stringToken key :: .value :: (value.tokens ++ [.flowMappingEnd])
  | .more key _ _ value _ _ entries =>
    .key :: stringToken key :: .value :: (value.tokens ++ .flowEntry :: entries.tokens)

end

theorem endsToken_eq_false {character : Char} (noTab : character ≠ '\t') (noSpace : character ≠ ' ')
    (unbroken : isBreak character = false) : endsToken (some character) = false := by
  simp [endsToken, endsWord, endsLine, noTab, noSpace, unbroken]

theorem isWordCharacter_of_isDigit {character : Char} (digit : Text.isDigit character = true) :
    isWordCharacter character = true := by
  have apart : ∀ mark, Text.isDigit mark = false → character ≠ mark := by
    rintro mark other rfl
    rw [digit] at other
    contradiction
  have solid : endsToken (some character) = false := by
    refine endsToken_eq_false (apart '\t' (by decide)) (apart ' ' (by decide)) ?_
    simp [isBreak, apart '\n' (by decide), apart '\r' (by decide), apart '\x85' (by decide),
      apart '\u2028' (by decide), apart '\u2029' (by decide)]
  simp [isWordCharacter, solid, oneOf, byteOrderMark, apart ':' (by decide), apart '#' (by decide),
    apart '\uFEFF' (by decide), apart ',' (by decide), apart '?' (by decide), apart '[' (by decide),
    apart ']' (by decide), apart '\x7b' (by decide), apart '\x7d' (by decide)]

theorem not_isIndicator_of_isDigit {character : Char} (digit : Text.isDigit character = true) :
    isIndicator character = false ∧ character ≠ '.' := by
  constructor
  · by_contra indicator
    simp only [isIndicator, Bool.not_eq_false] at indicator
    have each : ∀ mark ∈ "-?:,[]\x7b\x7d#&*!|>'\"%@`".toList, Text.isDigit mark = false :=
      List.all_iff_forall_prop.mp (by decide)
    rw [each character (by simpa using indicator)] at digit
    contradiction
  · rintro rfl
    exact absurd digit (by decide)

theorem numeral_plain (numeral : Numeral) :
    ∀ character ∈ numeral.text, isWordCharacter character = true := by
  intro character member
  obtain digit | mark := numeral.mem_text member
  · exact isWordCharacter_of_isDigit digit
  · have each : ∀ mark ∈ "-+.eE".toList, isWordCharacter mark = true :=
      List.all_iff_forall_prop.mp (by decide)
    exact each character mark

theorem numeral_begins (numeral : Numeral) : BeginsWord numeral.text := by
  obtain ⟨first, others, whole⟩ := List.exists_cons_of_ne_nil numeral.filled
  have digit : Text.isDigit first = true := numeral.isDigits first (by simp [whole])
  have plain := isWordCharacter_of_isDigit digit
  unfold Numeral.text
  rw [whole]
  cases numeral.negative with
  | false => exact .inl (not_isIndicator_of_isDigit digit)
  | true =>
      refine .inr ⟨rfl, first, rfl, ?_, ?_⟩
      · simp only [isWordCharacter, Bool.not_eq_true', Bool.or_eq_false_iff] at plain
        exact plain.1.1.1.1
      · rintro rfl
        exact absurd digit (by decide)

theorem word_plain {name : String} {value : Value} (named : (name, value) ∈ namedValues) :
    BeginsWord name.toList ∧ ∀ character ∈ name.toList, isWordCharacter character = true := by
  simp only [namedValues, List.mem_cons, Prod.mk.injEq, List.not_mem_nil, or_false] at named
  obtain ⟨rfl, -⟩ | ⟨rfl, -⟩ | ⟨rfl, -⟩ | ⟨rfl, -⟩ | ⟨rfl, -⟩ | ⟨rfl, -⟩ := named
  case' inr.inr.inr.inr.inr => exact ⟨.inr ⟨rfl, 'I', rfl, by decide, by decide⟩,
    List.all_iff_forall_prop.mp (by decide)⟩
  all_goals exact ⟨.inl ⟨by decide, by decide⟩, List.all_iff_forall_prop.mp (by decide)⟩

variable {cutting : Cutting} {depth : Nat} {tokens : List Token} {rest : List Char}

theorem isBlank_of_portable {blank : Blank} (portable : blank.Portable) :
    ∀ character ∈ blank.text, isBlank character = true := by
  intro character member
  have space := blank.spaces character member
  have noTab : character ≠ '\t' := by
    rintro rfl
    exact portable member
  simpa [isSpace, isBlank, noTab] using space

/-- Blanks in front of a text are passed over. -/
theorem stands_blank {blank : Blank} (portable : blank.Portable)
    (stands : Stands depth tokens (blank.text ++ rest) cutting) :
      Stands depth tokens rest cutting := by
  obtain ⟨front, each, starts⟩ := stands.rest
  refine { stands with rest := ⟨front ++ blank.text, ?_, by rw [starts, List.append_assoc]⟩ }
  exact List.forall_mem_append.mpr ⟨each, isBlank_of_portable portable⟩

mutual

/-- A value that something closes is cut into its tokens. -/
theorem exists_value : ∀ (written : Syntax) {blank : Blank} {stop : Char} {cutting : Cutting}
    {tokens : List Token} {depth : Nat} {rest : List Char}, written.Portable →
      blank.Portable → Closes stop →
      Stands (depth + 1) tokens (written.text ++ (blank.text ++ stop :: rest)) cutting →
        ∃ after, Leads cutting after ∧
          Stands (depth + 1) (written.tokens.reverse ++ tokens) (stop :: rest) after
  | .word _ _ named, _, _, _, _, _, _, _, spaced, closes, stands =>
    exists_word (word_plain named).1 (word_plain named).2 closes (isBlank_of_portable spaced) stands
  | .number numeral, blank, stop, _, _, _, _, portable, spaced, closes, stands =>
    exists_word (numeral_begins numeral) (numeral_plain numeral) closes
      (isBlank_of_portable spaced) stands
  | .string pieces, blank, stop, _, _, _, _, portable, spaced, closes, stands => by
    obtain ⟨after, leads, stands⟩ := exists_string portable stands
    exact ⟨after, leads, stands_blank spaced stands⟩
  | .emptyArray inner, _, _, _, _, _, _, portable, spaced, _, stands => by
    simp only [Syntax.text, List.cons_append, List.append_assoc, List.nil_append] at stands
    obtain ⟨opened, leads, stands, -⟩ := exists_opened (.inl ⟨rfl, rfl⟩) stands
    obtain ⟨after, further, stands⟩ :=
      exists_closed (.inl ⟨rfl, rfl⟩) (stands_blank portable stands)
    exact ⟨after, leads.trans further, stands_blank spaced stands⟩
  | .array inner items, _, _, _, _, _, _, portable, spaced, _, stands => by
    simp only [Syntax.text, List.cons_append, List.append_assoc] at stands
    obtain ⟨opened, leads, stands, -⟩ := exists_opened (.inl ⟨rfl, rfl⟩) stands
    obtain ⟨after, further, stands⟩ :=
      exists_items items portable.2 (stands_blank portable.1 stands)
    refine ⟨after, leads.trans further, ?_⟩
    simpa [Syntax.tokens] using stands_blank spaced stands
  | .emptyObject inner, _, _, _, _, _, _, portable, spaced, _, stands => by
    simp only [Syntax.text, List.cons_append, List.append_assoc, List.nil_append] at stands
    obtain ⟨opened, leads, stands, -⟩ := exists_opened (.inr ⟨rfl, rfl⟩) stands
    obtain ⟨after, further, stands⟩ :=
      exists_closed (.inr ⟨rfl, rfl⟩) (stands_blank portable stands)
    exact ⟨after, leads.trans further, stands_blank spaced stands⟩
  | .object inner entries, _, _, _, _, _, _, portable, spaced, _, stands => by
    simp only [Syntax.text, List.cons_append, List.append_assoc] at stands
    obtain ⟨opened, leads, stands, allowed⟩ := exists_opened (.inr ⟨rfl, rfl⟩) stands
    obtain ⟨after, further, stands⟩ :=
      exists_entries entries portable.2 allowed (stands_blank portable.1 stands)
    refine ⟨after, leads.trans further, ?_⟩
    simpa [Syntax.tokens] using stands_blank spaced stands

theorem exists_items : ∀ (written : Items) {cutting : Cutting} {tokens : List Token} {depth : Nat}
    {rest : List Char}, written.Portable →
      Stands (depth + 1) tokens (written.text ++ rest) cutting →
      ∃ after, Leads cutting after ∧ Stands depth (written.tokens.reverse ++ tokens) rest after
  | .last item blank, _, _, _, _, portable, stands => by
    simp only [Items.text, List.cons_append, List.append_assoc, List.nil_append] at stands
    obtain ⟨taken, leads, stands⟩ :=
      exists_value item portable.1 portable.2 (.inr (.inl rfl)) stands
    obtain ⟨after, further, stands⟩ := exists_closed (.inl ⟨rfl, rfl⟩) stands
    refine ⟨after, leads.trans further, ?_⟩
    simpa [Items.tokens] using stands
  | .more item before after items, _, _, _, _, portable, stands => by
    simp only [Items.text, List.cons_append, List.append_assoc] at stands
    obtain ⟨taken, leads, stands⟩ := exists_value item portable.1 portable.2.1 (.inl rfl) stands
    obtain ⟨separated, further, stands, -⟩ := exists_separated stands
    obtain ⟨last, rest, stands⟩ :=
      exists_items items portable.2.2.2 (stands_blank portable.2.2.1 stands)
    refine ⟨last, (leads.trans further).trans rest, ?_⟩
    simpa [Items.tokens] using stands

theorem exists_entries :
    ∀ (written : Entries) {cutting : Cutting} {tokens : List Token} {depth : Nat}
    {rest : List Char}, written.Portable → cutting.allowsKey = true →
      Stands (depth + 1) tokens (written.text ++ rest) cutting →
        ∃ after, Leads cutting after ∧ Stands depth (written.tokens.reverse ++ tokens) rest after
  | .last key before after value blank, _, _, _, _, portable, allowed, stands => by
    simp only [Entries.text, List.cons_append, List.append_assoc, List.nil_append] at stands
    obtain ⟨named, leads, stands⟩ := exists_key portable.1 allowed stands
    obtain ⟨taken, further, stands⟩ :=
      exists_value value portable.2.2.1 portable.2.2.2 (.inr (.inr rfl))
      (stands_blank portable.2.1 stands)
    obtain ⟨last, rest, stands⟩ := exists_closed (.inr ⟨rfl, rfl⟩) stands
    refine ⟨last, (leads.trans further).trans rest, ?_⟩
    simpa [Entries.tokens, stringToken] using stands
  | .more key before after value blank next entries, _, _, _, _, portable, allowed, stands => by
    simp only [Entries.text, List.cons_append, List.append_assoc] at stands
    obtain ⟨named, leads, stands⟩ := exists_key portable.1 allowed stands
    obtain ⟨taken, further, stands⟩ := exists_value value portable.2.2.1 portable.2.2.2.1 (.inl rfl)
      (stands_blank portable.2.1 stands)
    obtain ⟨separated, onwards, stands, allowed⟩ := exists_separated stands
    obtain ⟨last, rest, stands⟩ := exists_entries entries portable.2.2.2.2.2 allowed
      (stands_blank portable.2.2.2.2.1 stands)
    refine ⟨last, ((leads.trans further).trans onwards).trans rest, ?_⟩
    simpa [Entries.tokens, stringToken] using stands

end

theorem isAllowed_of_ascii {character : Char} (least : 0x20 ≤ character.toNat)
    (most : character.toNat ≤ 0x7E) :
    isAllowed character = true := by
  simp [isAllowed, least, most]

theorem isAllowed_of_isDigit {character : Char} (digit : Text.isDigit character = true) :
    isAllowed character = true := by
  simp only [Text.isDigit, Bool.and_eq_true, decide_eq_true_eq, Char.le_def,
    UInt32.le_iff_toNat_le] at digit
  have least : 0x30 ≤ character.toNat := digit.1
  have most : character.toNat ≤ 0x39 := digit.2
  exact isAllowed_of_ascii (by omega) (by omega)

theorem isAllowed_of_baseDigit? {character : Char} {digit : Nat}
    (read : Text.baseDigit? 16 character = some digit) : isAllowed character = true := by
  unfold Text.baseDigit? at read
  have found := (Option.filter_eq_some_iff.mp read).1
  have bounds : 0x30 ≤ character.toNat ∧ character.toNat ≤ 0x7A := by
    split at found
    · grind
    · split at found
      · grind
      · split at found
        · grind
        · contradiction
  exact isAllowed_of_ascii (by omega) (by omega)

theorem blank_allowed {blank : Blank} (portable : blank.Portable) :
    ∀ character ∈ blank.text, isAllowed character = true := by
  intro character member
  have space := isBlank_of_portable portable character member
  simp only [isBlank, Bool.or_eq_true, beq_iff_eq] at space
  obtain (rfl | rfl) | rfl := space <;> decide

theorem spaces_allowed {spaces : List Char} (each : ∀ character ∈ spaces, character = ' ') :
    ∀ character ∈ spaces, isAllowed character = true := by
  intro character member
  rw [each character member]
  decide

theorem piece_allowed {piece : Piece} (portable : piece.Portable) :
    ∀ character ∈ piece.text, isAllowed character = true := by
  cases piece with
  | plain character printed unquoted unescaped => exact List.forall_mem_singleton.mpr portable.1
  | escape letter character names =>
      have each : ∀ mark ∈ "\"\\/bfnrt".toList, isAllowed mark = true :=
        List.all_iff_forall_prop.mp (by decide)
      exact List.forall_mem_cons.mpr
        ⟨by decide, List.forall_mem_singleton.mpr (each letter (mem_of_escape names))⟩
  | code written =>
      obtain ⟨a, b, c, d, number, writes⟩ := written
      simp only [code?, Option.bind_eq_bind, Option.bind_eq_some_iff] at writes
      obtain ⟨_, first, _, second, _, third, _, fourth, -⟩ := writes
      simp only [Piece.text, Code.text, List.forall_mem_cons]
      exact ⟨by decide, by decide, isAllowed_of_baseDigit? first, isAllowed_of_baseDigit? second,
        isAllowed_of_baseDigit? third, isAllowed_of_baseDigit? fourth, List.forall_mem_nil _⟩
  | pair => exact portable.elim

theorem quoted_allowed {pieces : List Piece} (portable : PortableString pieces) :
    ∀ character ∈ quoted pieces, isAllowed character = true := by
  refine List.forall_mem_cons.mpr
    ⟨by decide, List.forall_mem_append.mpr ⟨?_, List.all_iff_forall_prop.mp (by decide)⟩⟩
  exact List.forall_mem_flatMap.mpr fun piece member => piece_allowed (portable piece member)

theorem numeral_allowed (numeral : Numeral) :
    ∀ character ∈ numeral.text, isAllowed character = true := by
  intro character member
  obtain digit | mark := numeral.mem_text member
  · exact isAllowed_of_isDigit digit
  · have each : ∀ mark ∈ "-+.eE".toList, isAllowed mark = true :=
      List.all_iff_forall_prop.mp (by decide)
    exact each character mark

mutual

theorem value_allowed : ∀ (written : Syntax), written.Portable →
    ∀ character ∈ written.text, isAllowed character = true
  | .word _ _ named, _ => by
    simp only [namedValues, List.mem_cons, Prod.mk.injEq, List.not_mem_nil, or_false] at named
    obtain ⟨rfl, -⟩ | ⟨rfl, -⟩ | ⟨rfl, -⟩ | ⟨rfl, -⟩ | ⟨rfl, -⟩ | ⟨rfl, -⟩ := named
    all_goals
      rw [Syntax.text]
      exact List.all_iff_forall_prop.mp (by decide)
  | .number numeral, _ => numeral_allowed numeral
  | .string _, portable => quoted_allowed portable
  | .emptyArray _, portable => by
    simp only [Syntax.text, List.forall_mem_cons, List.forall_mem_append]
    exact ⟨by decide, blank_allowed portable, by decide, List.forall_mem_nil _⟩
  | .array _ items, portable => by
    simp only [Syntax.text, List.forall_mem_cons, List.forall_mem_append]
    exact ⟨by decide, blank_allowed portable.1, items_allowed items portable.2⟩
  | .emptyObject _, portable => by
    simp only [Syntax.text, List.forall_mem_cons, List.forall_mem_append]
    exact ⟨by decide, blank_allowed portable, by decide, List.forall_mem_nil _⟩
  | .object _ entries, portable => by
    simp only [Syntax.text, List.forall_mem_cons, List.forall_mem_append]
    exact ⟨by decide, blank_allowed portable.1, entries_allowed entries portable.2⟩

theorem items_allowed : ∀ (written : Items), written.Portable →
    ∀ character ∈ written.text, isAllowed character = true
  | .last item _, portable => by
    simp only [Items.text, List.forall_mem_cons, List.forall_mem_append]
    exact ⟨⟨value_allowed item portable.1, blank_allowed portable.2⟩, by
      decide, List.forall_mem_nil _⟩
  | .more item _ _ items, portable => by
    simp only [Items.text, List.forall_mem_cons, List.forall_mem_append]
    exact ⟨⟨value_allowed item portable.1, blank_allowed portable.2.1⟩, by decide,
      blank_allowed portable.2.2.1, items_allowed items portable.2.2.2⟩

theorem entries_allowed : ∀ (written : Entries), written.Portable →
    ∀ character ∈ written.text, isAllowed character = true
  | .last _ _ _ value _, portable => by
    simp only [Entries.text, List.forall_mem_cons, List.forall_mem_append]
    exact ⟨⟨quoted_allowed portable.1.pieces, spaces_allowed portable.1.spaces⟩, by decide,
      ⟨⟨blank_allowed portable.2.1, value_allowed value portable.2.2.1⟩,
        blank_allowed portable.2.2.2⟩,
      by decide, List.forall_mem_nil _⟩
  | .more _ _ _ value _ _ entries, portable => by
    simp only [Entries.text, List.forall_mem_cons, List.forall_mem_append]
    exact ⟨⟨quoted_allowed portable.1.pieces, spaces_allowed portable.1.spaces⟩, by decide,
      ⟨⟨blank_allowed portable.2.1, value_allowed value portable.2.2.1⟩,
        blank_allowed portable.2.2.2.1⟩,
      by decide, blank_allowed portable.2.2.2.2.1, entries_allowed entries portable.2.2.2.2.2⟩

end

theorem stands_start (text : List Char) : Stands 0 [] text (Cutting.start text) :=
  ⟨⟨[], List.forall_mem_nil _, rfl⟩, rfl, rfl, rfl, rfl, List.forall_mem_nil _⟩

/-- Cutting goes through an object to the end of the text. -/
theorem exists_object {written : Syntax} {after : Blank} {entries : List (Value × Value)}
    (object : written.value = .map entries) (portable : written.Portable) (spaced : after.Portable)
    {cutting : Cutting} (stands : Stands 0 [] (written.text ++ after.text) cutting) :
    ∃ last, Leads cutting last ∧ Stands 0 written.tokens.reverse [] last := by
  rw [← List.append_nil after.text] at stands
  cases written with
  | emptyObject inner =>
      simp only [Syntax.text, List.cons_append, List.append_assoc, List.nil_append] at stands
      obtain ⟨opened, leads, stands, -⟩ := exists_opened (.inr ⟨rfl, rfl⟩) stands
      obtain ⟨last, further, stands⟩ :=
        exists_closed (.inr ⟨rfl, rfl⟩) (stands_blank portable stands)
      exact ⟨last, leads.trans further, stands_blank spaced stands⟩
  | object inner entries =>
      simp only [Syntax.text, List.cons_append, List.append_assoc] at stands
      obtain ⟨opened, leads, stands, allowed⟩ := exists_opened (.inr ⟨rfl, rfl⟩) stands
      obtain ⟨last, further, stands⟩ :=
        exists_entries entries portable.2 allowed (stands_blank portable.1 stands)
      refine ⟨last, leads.trans further, ?_⟩
      simpa [Syntax.tokens] using stands_blank spaced stands
  | word name value named => exact absurd object (value_ne_map_of_mem_namedValues named entries)
  | number numeral => exact absurd object (numeral.value_ne_map entries)
  | string pieces => contradiction
  | emptyArray inner => contradiction
  | array inner items => contradiction

/-- A text in portable syntax of an object is cut into the tokens of its syntax. -/
theorem tokensOf_object {before after : Blank} {written : Syntax} {entries : List (Value × Value)}
    (object : written.value = .map entries) (spacedBefore : before.Portable)
    (spacedAfter : after.Portable)
    (portable : written.Portable) :
    tokensOf (before.text ++ written.text ++ after.text) = written.tokens ++ [.streamEnd] := by
  have allowed : (before.text ++ written.text ++ after.text).all isAllowed = true := by
    rw [List.all_eq_true]
    exact List.forall_mem_append.mpr ⟨List.forall_mem_append.mpr ⟨blank_allowed spacedBefore,
      value_allowed written portable⟩, blank_allowed spacedAfter⟩
  rw [List.append_assoc] at allowed ⊢
  have stands := stands_start (before.text ++ (written.text ++ after.text))
  obtain ⟨last, leads, atEnd⟩ :=
    exists_object object portable spacedAfter (stands_blank spacedBefore stands)
  obtain ⟨fuel, enough, same⟩ := leads _ (Nat.lt_add_of_pos_right (Nat.succ_pos 1))
  rw [tokensOf, if_pos allowed]
  refine same.trans ?_
  rw [all_of_end atEnd (Nat.zero_lt_of_lt enough)]
  simp

end ApiCompiler.Json
