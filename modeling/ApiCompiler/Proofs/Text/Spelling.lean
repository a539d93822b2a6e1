import ApiCompiler.Proofs.Text.Numeral

/-!
# Spellings of numbers

Which texts are read as a whole number: decimal digits of any script with single underscores between
them, behind a sign or none, and with blanks around them.
-/

namespace ApiCompiler.Text

theorem decimalDigit?_lt {character : Char} {digit : Nat}
    (value : decimalDigit? character = some digit) :
    digit < 10 := by
  obtain ⟨start, found, rfl⟩ := Option.map_eq_some_iff.mp value
  have within := List.find?_some found
  rw [Bool.and_eq_true, decide_eq_true_eq, decide_eq_true_eq] at within
  omega

theorem baseDigit?_of_ascii {character : Char} (ascii : character.toNat < 0x80) :
    baseDigit? 10 character = decimalDigit? character := by
  have each : ∀ code < 0x80, baseDigit? 10 (Char.ofNat code) = decimalDigit? (Char.ofNat code) := by
    decide +kernel
  simpa using each character.toNat ascii

theorem baseDigit?_of_wide {character : Char} (wide : 0x80 ≤ character.toNat) :
    baseDigit? 10 character = none := by
  unfold baseDigit?
  dsimp only
  rw [if_neg (by simp; omega), if_neg (by simp; omega), if_neg (by simp; omega)]
  rfl

theorem decimalDigit?_of_isBlank {character : Char} (wide : 0x80 ≤ character.toNat)
    (blank : isBlank character = true) : decimalDigit? character = none := by
  have each :
      ∀ code ∈ [0x85, 0xA0, 0x1680, 0x2000, 0x2001, 0x2002, 0x2003, 0x2004, 0x2005, 0x2006, 0x2007,
      0x2008, 0x2009, 0x200A, 0x2028, 0x2029, 0x202F, 0x205F, 0x3000],
      decimalDigit? (Char.ofNat code) = none := by
    decide +kernel
  simp only [isBlank, Bool.or_eq_true, Bool.and_eq_true, decide_eq_true_eq, beq_iff_eq] at blank
  have unread := each character.toNat (by
    simp only [List.mem_cons, List.not_mem_nil]
    omega)
  simpa using unread

theorem isNumeralBlank_of_wide {character : Char} (wide : 0x80 ≤ character.toNat) :
    isNumeralBlank character = false := by
  have filled : character ≠ ' ' := by
    rintro rfl
    exact absurd wide (by decide)
  rw [isNumeralBlank, beq_false_of_ne filled, Bool.false_or, Bool.and_eq_false_iff,
    decide_eq_false_iff_not, decide_eq_false_iff_not]
  omega

/-- A character in ASCII, if it is a digit or a blank. -/
def asciiForm (character : Char) : Char :=
  if character.toNat < 0x80 then character
  else if isBlank character then ' '
  else match decimalDigit? character with
    | some digit => Char.ofNat (0x30 + digit)
    | none => character

theorem asciiNumeral_eq_map (text : List Char) : asciiNumeral text = text.map asciiForm :=
  rfl

/-- How a character comes to its ASCII form. -/
inductive HasForm (character : Char) : Char → Prop where
  | ascii (small : character.toNat < 0x80) : HasForm character character
  | blank (wide : 0x80 ≤ character.toNat) (blank : isBlank character = true) : HasForm character ' '
  | digit {digit : Nat} (wide : 0x80 ≤ character.toNat) (filled : isBlank character = false)
      (value : decimalDigit? character = some digit) : HasForm character (Char.ofNat (0x30 + digit))
  | other (wide : 0x80 ≤ character.toNat) (filled : isBlank character = false)
      (unread : decimalDigit? character = none) : HasForm character character

theorem hasForm (character : Char) : HasForm character (asciiForm character) := by
  unfold asciiForm
  split
  · next small => exact .ascii small
  · next wide =>
    split
    · next blank => exact .blank (Nat.not_lt.mp wide) blank
    · next filled =>
      rw [Bool.not_eq_true] at filled
      split
      · next digit value => exact .digit (Nat.not_lt.mp wide) filled value
      · next unread => exact .other (Nat.not_lt.mp wide) filled unread

theorem baseDigit?_of_hasForm {character form : Char} (has : HasForm character form) :
    baseDigit? 10 form = decimalDigit? character := by
  cases has with
  | ascii small => exact baseDigit?_of_ascii small
  | blank wide blank =>
      rw [decimalDigit?_of_isBlank wide blank]
      rfl
  | digit wide filled value =>
      have each : ∀ digit < 10, baseDigit? 10 (Char.ofNat (0x30 + digit)) = some digit := by decide
      rw [each _ (decimalDigit?_lt value), value]
  | other wide filled unread => rw [baseDigit?_of_wide wide, unread]

/-- A blank that may stand around a numeral: of ASCII the space and those that end lines. -/
def isMargin (character : Char) : Bool :=
  if character.toNat < 0x80 then isNumeralBlank character else isBlank character

theorem isNumeralBlank_of_hasForm {character form : Char} (has : HasForm character form) :
    isNumeralBlank form = isMargin character := by
  unfold isMargin
  cases has with
  | ascii small => rw [if_pos small]
  | blank wide blank =>
      rw [if_neg (Nat.not_lt.mpr wide), blank]
      rfl
  | digit wide filled value =>
      have each : ∀ digit < 10, isNumeralBlank (Char.ofNat (0x30 + digit)) = false := by decide
      rw [if_neg (Nat.not_lt.mpr wide), filled, each _ (decimalDigit?_lt value)]
  | other wide filled unread =>
      rw [if_neg (Nat.not_lt.mpr wide), filled, isNumeralBlank_of_wide wide]

/-- A mark that is neither a digit nor a blank is the ASCII form of itself alone. -/
theorem eq_iff_of_hasForm {character form mark : Char} (has : HasForm character form)
    (small : mark.toNat < 0x80) (unread : baseDigit? 10 mark = none) (filled : mark ≠ ' ') :
    form = mark ↔ character = mark := by
  have narrow : 0x80 ≤ character.toNat → character ≠ mark := by
    rintro wide rfl
    omega
  cases has with
  | ascii => exact Iff.rfl
  | blank wide => exact iff_of_false (Ne.symm filled) (narrow wide)
  | digit wide _ value =>
      have each : ∀ digit < 10, baseDigit? 10 (Char.ofNat (0x30 + digit)) ≠ none := by decide
      refine iff_of_false ?_ (narrow wide)
      rintro rfl
      exact each _ (decimalDigit?_lt value) unread
  | other => exact Iff.rfl

theorem baseDigit?_asciiForm (character : Char) :
    baseDigit? 10 (asciiForm character) = decimalDigit? character :=
  baseDigit?_of_hasForm (hasForm character)

/-- Digits with single underscores between them, and their values. -/
inductive WritesDigits (value? : Char → Option Nat) : List Char → List Nat → Prop where
  | last {character : Char} {digit : Nat} (own : value? character = some digit) :
      WritesDigits value? [character] [digit]
  | next {character : Char} {digit : Nat} {rest : List Char} {digits : List Nat}
      (own : value? character = some digit) (others : WritesDigits value? rest digits) :
      WritesDigits value? (character :: rest) (digit :: digits)
  | apart {character : Char} {digit : Nat} {rest : List Char} {digits : List Nat}
      (own : value? character = some digit) (others : WritesDigits value? rest digits) :
      WritesDigits value? (character :: '_' :: rest) (digit :: digits)

theorem WritesDigits.ne_nil {value? : Char → Option Nat} {text : List Char} {digits : List Nat}
    (written : WritesDigits value? text digits) : text ≠ [] := by
  cases written <;> exact List.cons_ne_nil _ _

/-- A run of digits starts with one. -/
theorem WritesDigits.head {value? : Char → Option Nat} {text : List Char} {digits : List Nat}
    (written : WritesDigits value? text digits) (filled : text ≠ []) :
      value? (text.head filled) ≠ none := by
  cases written with
  | last own => simp [own]
  | next own => simp [own]
  | apart own => simp [own]

/-- A run of digits ends with one. -/
theorem WritesDigits.getLast {value? : Char → Option Nat} {text : List Char} {digits : List Nat}
    (written : WritesDigits value? text digits) (filled : text ≠ []) :
      value? (text.getLast filled) ≠ none := by
  induction written with
  | last own => simp [own]
  | next own others induction =>
      rw [List.getLast_cons others.ne_nil]
      exact induction others.ne_nil
  | apart own others induction =>
      rw [List.getLast_cons (List.cons_ne_nil _ _), List.getLast_cons others.ne_nil]
      exact induction others.ne_nil

theorem separatedDigits?_eq_some_iff {text : List Char} {digits : List Nat} :
    separatedDigits? 10 text = some digits ↔ WritesDigits (baseDigit? 10) text digits := by
  induction text using separatedDigits?.induct generalizing digits with
  | case1 =>
      rw [separatedDigits?]
      exact iff_of_false (Option.some_ne_none _).symm fun written => written.ne_nil rfl
  | case2 character =>
      rw [separatedDigits?, Option.map_eq_some_iff]
      constructor
      · rintro ⟨digit, own, rfl⟩
        exact .last own
      · rintro (own | ⟨_, others⟩)
        · exact ⟨_, own, rfl⟩
        · exact absurd rfl others.ne_nil
  | case3 character rest induction =>
      rw [separatedDigits?]
      simp only [Option.bind_eq_bind, Option.bind_eq_some_iff, induction, pure, Option.some.injEq]
      constructor
      · rintro ⟨digit, own, others, written, rfl⟩
        exact .apart own written
      · rintro (_ | ⟨_, others⟩ | ⟨own, others⟩)
        · exact absurd rfl (others.head (List.cons_ne_nil _ _))
        · exact ⟨_, own, _, others, rfl⟩
  | case4 character rest more separated induction =>
      rw [separatedDigits?.eq_4 _ _ _ more separated]
      simp only [Option.bind_eq_bind, Option.bind_eq_some_iff, induction, pure, Option.some.injEq]
      constructor
      · rintro ⟨digit, own, others, written, rfl⟩
        exact .next own written
      · rintro (own | ⟨own, others⟩ | ⟨own, others⟩)
        · exact absurd rfl more
        · exact ⟨_, own, _, others, rfl⟩
        · exact absurd rfl (separated _)

/-- A run of digits of any script is one of the digits that they are in ASCII. -/
theorem writesDigits_map_iff {text : List Char} {digits : List Nat} :
    WritesDigits (baseDigit? 10) (text.map asciiForm) digits ↔
      WritesDigits decimalDigit? text digits := by
  constructor
  · intro written
    generalize form : text.map asciiForm = ascii at written
    induction written generalizing text with
    | last own =>
        obtain ⟨character, rfl, rfl⟩ := List.map_eq_singleton_iff.mp form
        exact .last (baseDigit?_asciiForm character ▸ own)
    | next own _ induction =>
        obtain ⟨character, rest, rfl, rfl, behind⟩ := List.map_eq_cons_iff.mp form
        exact .next (baseDigit?_asciiForm character ▸ own) (induction behind)
    | apart own _ induction =>
        obtain ⟨character, rest, rfl, rfl, behind⟩ := List.map_eq_cons_iff.mp form
        obtain ⟨mark, others, rfl, marked, further⟩ := List.map_eq_cons_iff.mp behind
        obtain rfl := (eq_iff_of_hasForm (hasForm mark) (by decide) rfl (by decide)).mp marked
        exact .apart (baseDigit?_asciiForm character ▸ own) (induction further)
  · intro written
    induction written with
    | last own => exact .last ((baseDigit?_asciiForm _).trans own)
    | next own _ induction => exact .next ((baseDigit?_asciiForm _).trans own) induction
    | apart own _ induction => exact .apart ((baseDigit?_asciiForm _).trans own) induction

/-- A sign, or none, and whether it is that of a negative number. -/
inductive WritesSign : List Char → Bool → Prop where
  | absent : WritesSign [] false
  | plus : WritesSign ['+'] false
  | minus : WritesSign ['-'] true

/-- A text spells a whole number: a run of decimal digits within the limit, behind a sign or none,
with blanks around. -/
inductive Spells : List Char → Int → Prop where
  | intro {before sign body after : List Char} {negative : Bool} {digits : List Nat}
      (front : ∀ character ∈ before, isMargin character = true) (signed : WritesSign sign negative)
      (written : WritesDigits decimalDigit? body digits) (short : digits.length ≤ numeralLimit)
      (back : ∀ character ∈ after, isMargin character = true) :
      Spells (before ++ (sign ++ body) ++ after)
        (if negative then -(digitsValue 10 digits : Int) else digitsValue 10 digits)

theorem exists_trimBy (test : Char → Bool) (text : List Char) :
    ∃ before after, text = before ++ trimBy test text ++ after ∧
      (∀ character ∈ before, test character = true) ∧ ∀ character ∈ after,
        test character = true := by
  refine ⟨text.takeWhile test, ((text.dropWhile test).reverse.takeWhile test).reverse, ?_, ?_, ?_⟩
  · rw [trimBy, List.append_assoc, ← List.reverse_append, List.takeWhile_append_dropWhile,
      List.reverse_reverse, List.takeWhile_append_dropWhile]
  · exact List.all_eq_true.mp List.all_takeWhile
  · exact fun character member =>
      List.all_eq_true.mp List.all_takeWhile character (List.mem_reverse.mp member)

/-- A text that was trimmed does not begin with what is trimmed off. -/
theorem head?_trimBy {test : Char → Bool} {text : List Char} {character : Char}
    (first : (trimBy test text).head? = some character) : test character = false := by
  have kept : trimBy test text <+: text.dropWhile test := by
    rw [trimBy, ← List.reverse_suffix, List.reverse_reverse]
    exact List.dropWhile_suffix test
  obtain ⟨after, whole⟩ := kept
  have stopped := List.head?_dropWhile_not test text
  rw [← whole, List.head?_append, first] at stopped
  exact stopped

/-- A text that was trimmed does not end with what is trimmed off. -/
theorem getLast?_trimBy {test : Char → Bool} {text : List Char} {character : Char}
    (last : (trimBy test text).getLast? = some character) : test character = false := by
  rw [trimBy, List.getLast?_reverse] at last
  have stopped := List.head?_dropWhile_not test (text.dropWhile test).reverse
  rw [last] at stopped
  exact stopped

theorem dropWhile_eq_self {test : Char → Bool} {text : List Char} (filled : text ≠ [])
    (head : test (text.head filled) = false) : text.dropWhile test = text := by
  obtain ⟨first, rest, rfl⟩ := List.exists_cons_of_ne_nil filled
  exact List.dropWhile_cons_of_neg (by simpa using head)

/-- What neither begins nor ends as its margins do is left by trimming them. -/
theorem trimBy_append {test : Char → Bool} {before body after : List Char} (filled : body ≠ [])
    (front : ∀ character ∈ before, test character = true) (head : test (body.head filled) = false)
    (last : test (body.getLast filled) = false)
    (back : ∀ character ∈ after, test character = true) :
    trimBy test (before ++ body ++ after) = body := by
  have begins : (body ++ after).dropWhile test = body ++ after :=
    dropWhile_eq_self (List.append_ne_nil_of_left_ne_nil filled after)
      (by rwa [List.head_append_of_ne_nil])
  have turned : body.reverse ≠ [] := List.reverse_ne_nil_iff.mpr filled
  have ends : body.reverse.dropWhile test = body.reverse :=
    dropWhile_eq_self turned (by rwa [List.head_reverse])
  rw [trimBy, List.append_assoc, List.dropWhile_append_of_pos front, begins, List.reverse_append,
    List.dropWhile_append_of_pos (fun character member =>
      back character (List.mem_reverse.mp member)), ends,
    List.reverse_reverse]

theorem isNumeralBlank_of_digit {character : Char} (digit : baseDigit? 10 character ≠ none) :
    isNumeralBlank character = false := by
  have each : ∀ code < 0x80, baseDigit? 10 (Char.ofNat code) ≠ none →
      isNumeralBlank (Char.ofNat code) = false := by
    decide +kernel
  by_cases small : character.toNat < 0x80
  · simpa using each character.toNat small (by simpa using digit)
  · exact isNumeralBlank_of_wide (Nat.not_lt.mp small)

theorem WritesSign.map_asciiForm {sign : List Char} {negative : Bool}
    (signed : WritesSign sign negative) :
    sign.map asciiForm = sign := by
  cases signed <;> rfl

theorem WritesSign.eq_of_map {sign text : List Char} {negative : Bool}
    (signed : WritesSign sign negative)
    (form : text.map asciiForm = sign) : text = sign := by
  have mark {character other : Char} (small : other.toNat < 0x80)
    (unread : baseDigit? 10 other = none)
      (filled : other ≠ ' ') (same : asciiForm character = other) : character = other :=
    (eq_iff_of_hasForm (hasForm character) small unread filled).mp same
  cases signed with
  | absent => exact List.map_eq_nil_iff.mp form
  | plus =>
      obtain ⟨character, rfl, same⟩ := List.map_eq_singleton_iff.mp form
      rw [mark (by decide) rfl (by decide) same]
  | minus =>
      obtain ⟨character, rfl, same⟩ := List.map_eq_singleton_iff.mp form
      rw [mark (by decide) rfl (by decide) same]

theorem exists_writesSign (text : List Char) :
    ∃ sign, text = sign ++ (takeSign text).2 ∧ WritesSign sign (takeSign text).1 := by
  fun_cases takeSign text with
  | case1 rest => exact ⟨['-'], rfl, .minus⟩
  | case2 rest => exact ⟨['+'], rfl, .plus⟩
  | case3 => exact ⟨[], rfl, .absent⟩

theorem takeSign_append {sign body : List Char} {negative : Bool} {digits : List Nat}
    (signed : WritesSign sign negative) (written : WritesDigits (baseDigit? 10) body digits) :
    takeSign (sign ++ body) = (negative, body) := by
  cases signed with
  | absent =>
      rw [List.nil_append]
      fun_cases takeSign body with
      | case1 => exact absurd rfl (written.head (List.cons_ne_nil _ _))
      | case2 => exact absurd rfl (written.head (List.cons_ne_nil _ _))
      | case3 => rfl
  | plus => rfl
  | minus => rfl

theorem integer?_eq (text : List Char) :
    integer? 10 text = (separatedDigits? 10 (takeSign (bareNumeral text)).2).bind fun digits =>
      if numeralLimit < digits.length then none
      else some (if (takeSign (bareNumeral text)).1 then -(digitsValue 10 digits : Int)
        else digitsValue 10 digits) := by
  simp [integer?]

theorem isMargin_of_map {text : List Char}
    (blank : ∀ character ∈ text.map asciiForm, isNumeralBlank character = true) :
    ∀ character ∈ text, isMargin character = true := fun character member =>
  isNumeralBlank_of_hasForm (hasForm character) ▸ blank _ (List.mem_map_of_mem member)

theorem isNumeralBlank_of_mem_map {text : List Char}
    (margin : ∀ character ∈ text, isMargin character = true) :
    ∀ character ∈ text.map asciiForm, isNumeralBlank character = true :=
  List.forall_mem_map.mpr fun character member =>
    (isNumeralBlank_of_hasForm (hasForm character)).trans (margin character member)

theorem bareNumeral_of_spelled {before sign body after : List Char} {negative : Bool}
    {digits : List Nat}
    (front : ∀ character ∈ before, isMargin character = true) (signed : WritesSign sign negative)
    (written : WritesDigits (baseDigit? 10) (body.map asciiForm) digits)
    (back : ∀ character ∈ after, isMargin character = true) :
    bareNumeral (before ++ (sign ++ body) ++ after) = sign ++ body.map asciiForm := by
  have filled : sign ++ body.map asciiForm ≠ [] :=
    List.append_ne_nil_of_right_ne_nil sign written.ne_nil
  have head : isNumeralBlank ((sign ++ body.map asciiForm).head filled) = false := by
    cases signed with
    | absent => exact isNumeralBlank_of_digit (written.head filled)
    | plus => rfl
    | minus => rfl
  have last : isNumeralBlank ((sign ++ body.map asciiForm).getLast filled) = false := by
    rw [List.getLast_append_of_ne_nil filled written.ne_nil]
    exact isNumeralBlank_of_digit (written.getLast written.ne_nil)
  rw [bareNumeral, asciiNumeral_eq_map, List.map_append, List.map_append, List.map_append,
    signed.map_asciiForm]
  exact trimBy_append filled (isNumeralBlank_of_mem_map front) head last
    (isNumeralBlank_of_mem_map back)

theorem exists_spelled (text : List Char) :
    ∃ before sign body after, text = before ++ (sign ++ body) ++ after ∧
      (∀ character ∈ before, isMargin character = true) ∧
        (∀ character ∈ after, isMargin character = true) ∧
      WritesSign sign (takeSign (bareNumeral text)).1 ∧
      body.map asciiForm = (takeSign (bareNumeral text)).2 := by
  obtain ⟨sign, bare, signed⟩ := exists_writesSign (bareNumeral text)
  obtain ⟨front, back, trimmed, blankFront, blankBack⟩ :=
    exists_trimBy isNumeralBlank (asciiNumeral text)
  obtain ⟨rest, after, split, whole, rfl⟩ := List.map_eq_append_iff.mp trimmed
  obtain ⟨before, core, rfl, rfl, form⟩ := List.map_eq_append_iff.mp whole
  obtain ⟨mark, body, rfl, marked, digits⟩ := List.map_eq_append_iff.mp (form.trans bare)
  obtain rfl := signed.eq_of_map marked
  exact ⟨before, mark, body, after, split, isMargin_of_map blankFront,
    isMargin_of_map blankBack, signed, digits⟩

/-- A text is read as the number that it spells. -/
theorem integer?_eq_some_iff {text : List Char} {value : Int} :
    integer? 10 text = some value ↔ Spells text value := by
  constructor
  · intro read
    rw [integer?_eq, Option.bind_eq_some_iff] at read
    obtain ⟨digits, separated, made⟩ := read
    split at made
    · contradiction
    · next short =>
      obtain ⟨before, sign, body, after, split, front, back, signed, form⟩ := exists_spelled text
      rw [← form, separatedDigits?_eq_some_iff, writesDigits_map_iff] at separated
      rw [split, ← Option.some.inj made]
      exact .intro front signed separated (Nat.not_lt.mp short) back
  · rintro ⟨front, signed, written, short, back⟩
    have ascii := writesDigits_map_iff.mpr written
    rw [integer?_eq, bareNumeral_of_spelled front signed ascii back, takeSign_append signed ascii,
      separatedDigits?_eq_some_iff.mpr ascii, Option.bind_some, if_neg (Nat.not_lt.mpr short)]

end ApiCompiler.Text
