import ApiCompiler.Proofs.Json.Reading
import ApiCompiler.Proofs.Text.Lowercase
import ApiCompiler.Proofs.Text.Numeral
import ApiCompiler.Yaml.Scalar

/-!
# Numbers of JSON as YAML reads them

A number is read to its value where it is whole, or has a point and, in front of the digits of an
exponent, a sign. Any other number is a text.
-/

namespace ApiCompiler.Yaml

open Json Text

variable {text digits : List Char}

theorem visible_of_isDigit {character : Char} (digit : isDigit character = true) :
    0x30 ≤ character.toNat ∧ character.toNat ≤ 0x39 := by
  rw [isDigit_eq_isDigit] at digit
  exact toNat_of_isDigit digit

theorem digit_ne {character mark : Char} (digit : isDigit character = true)
    (other : isDigit mark = false) :
    character ≠ mark := by
  rintro rfl
  rw [digit] at other
  contradiction

theorem separatedDigits?_digits (filled : digits ≠ [])
    (each : ∀ digit ∈ digits, isDigit digit = true) :
    separatedDigits? 10 digits = some (digitValues digits) := by
  refine separatedDigits?_eq_some filled fun digit member => ?_
  rw [← isDigit_eq_isDigit]
  exact each digit member

theorem withoutUnderscores_eq (none : '_' ∉ text) : Scalar.withoutUnderscores text = text := by
  refine List.filter_eq_self.mpr fun character member => ?_
  simp only [bne_iff_ne]
  rintro rfl
  exact none member

theorem splitAt_eq (separator : Char) (none : separator ∉ text) :
    splitAt separator text = [text] := by
  induction text with
  | nil => rfl
  | cons character text induction =>
      obtain ⟨other, behind⟩ := not_or.mp (mt List.mem_cons.mpr none)
      rw [splitAt, if_neg fun eq => other eq.symm, induction behind]

/-- What stands behind the fraction of a number. -/
def exponentText (numeral : Numeral) : List Char :=
  (numeral.exponent.map Exponent.text).getD []

/-- The digits of a number, its point and its exponent. -/
def unsignedText (numeral : Numeral) : List Char :=
  numeral.whole ++ (Numeral.fractionText numeral.fraction ++ exponentText numeral)

theorem numeral_text (numeral : Numeral) :
    numeral.text = (if numeral.negative then ['-'] else []) ++ unsignedText numeral := by
  simp only [Numeral.text, unsignedText, exponentText, List.append_assoc]

theorem exists_unsigned (numeral : Numeral) :
    ∃ first others, unsignedText numeral = first :: others ∧ isDigit first = true := by
  obtain ⟨first, others, whole⟩ := List.exists_cons_of_ne_nil numeral.filled
  refine ⟨first, _, by rw [unsignedText, whole]; rfl, numeral.isDigits first ?_⟩
  simp [whole]

theorem takeSign_unsigned {first : Char} {others : List Char} (digit : isDigit first = true) :
    takeSign (first :: others) = (false, first :: others) := by
  refine takeSign.eq_3 _ (fun _ eq => ?_) (fun _ eq => ?_)
  · exact digit_ne digit (by decide) (List.cons.inj eq).1
  · exact digit_ne digit (by decide) (List.cons.inj eq).1

theorem takeSign_numeral (numeral : Numeral) :
    takeSign numeral.text = (numeral.negative, unsignedText numeral) := by
  obtain ⟨first, others, unsigned, digit⟩ := exists_unsigned numeral
  rw [numeral_text, unsigned]
  cases numeral.negative with
  | true => rfl
  | false => exact takeSign_unsigned digit

/-! ## Forms -/

/-- The beginnings of numbers. -/
def beginsNumber (word : String) : Bool :=
  word.toList.head?.any fun character => isDigit character || character == '-'

theorem not_mem_numeral {numeral : Numeral} {character : Char}
    (other : (isDigit character || "-+.eE".toList.contains character) = false) :
    character ∉ numeral.text := by
  intro member
  rw [Bool.or_eq_false_iff] at other
  obtain digit | mark := numeral.mem_text member
  · rw [digit] at other
    exact absurd other.1 (by decide)
  · rw [List.contains_iff_mem.mpr mark] at other
    exact absurd other.2 (by decide)

theorem not_one_of (numeral : Numeral) {words : List String}
    (apart : ∀ word ∈ words, beginsNumber word = false) :
    words.any (·.toList == numeral.text) = false := by
  obtain ⟨first, rest, starts, first_eq⟩ := numeral.exists_text_eq_cons
  rw [List.any_eq_false]
  intro word member same
  have begins := apart word member
  rw [beginsNumber, beq_iff_eq.mp same, starts, List.head?_cons, Option.any_some,
    Bool.or_eq_false_iff] at begins
  obtain digit | rfl := first_eq
  · rw [digit] at begins
    exact absurd begins.1 (by decide)
  · exact absurd begins.2 (by decide)

theorem dropLastBreak_numeral (numeral : Numeral) :
    Tag.dropLastBreak numeral.text = numeral.text := by
  have unbroken : numeral.text.getLast? ≠ some '\n' :=
    fun last => not_mem_numeral (by decide) (List.mem_of_getLast? last)
  rw [Tag.dropLastBreak, if_neg (by simpa using unbroken)]

theorem dropSign_numeral (numeral : Numeral) :
    Tag.dropSign numeral.text = unsignedText numeral := by
  rw [Tag.dropSign, takeSign_numeral]

/-- The form of a number decides between numbers, days and texts. -/
theorem ofPlain_numeral (numeral : Numeral) :
    Tag.ofPlain (String.ofList numeral.text) =
      if Tag.isFloat numeral.text then .float
      else if Tag.isInt numeral.text then .int
      else if Tag.isTimestamp numeral.text then .timestamp
      else .str := by
  have filled : (String.ofList numeral.text).isEmpty = false := by
    obtain ⟨first, rest, starts, -⟩ := numeral.exists_text_eq_cons
    rw [starts, Bool.eq_false_iff]
    intro empty
    have same := congrArg String.toList (String.isEmpty_iff.mp empty)
    rw [String.toList_ofList] at same
    contradiction
  have apart : ∀ words : List String, (words.all fun word => !beginsNumber word) = true →
      words.any (·.toList == numeral.text) = false := by
    intro words each
    refine not_one_of numeral fun word member => ?_
    simpa using List.all_eq_true.mp each word member
  rw [Tag.ofPlain]
  simp only [String.toList_ofList, dropLastBreak_numeral, filled, Bool.false_or,
    apart Tag.truths (by decide),
    apart ["<<"] (by decide), apart ["~", "null", "Null", "NULL"] (by decide),
    apart ["="] (by decide), apart ["!", "&", "*"] (by decide), Bool.false_eq_true, if_false]

theorem whole_isDigit (numeral : Numeral) : ∀ digit ∈ numeral.whole, isDigit digit = true :=
  fun digit member => numeral.isDigits digit (List.mem_append_left _ member)

theorem fraction_isDigit (numeral : Numeral) : ∀ digit ∈ numeral.fraction, isDigit digit = true :=
  fun digit member => numeral.isDigits digit (List.mem_append_right _ member)

theorem not_mem_digits {mark : Char} (each : ∀ digit ∈ digits, isDigit digit = true)
    (other : isDigit mark = false) : mark ∉ digits :=
  fun member => digit_ne (each mark member) other rfl

theorem isDigits_eq_true (filled : digits ≠ []) (each : ∀ digit ∈ digits, isDigit digit = true) :
    Tag.isDigits digits = true := by
  obtain ⟨first, others, rfl⟩ := List.exists_cons_of_ne_nil filled
  obtain ⟨head, tail⟩ := List.forall_mem_cons.mp each
  rw [Tag.isDigits, head, Bool.true_and, List.all_eq_true]
  exact fun digit member => by rw [Tag.isDigitOrMark, tail digit member, Bool.true_or]

theorem isSexagesimal_eq_false (none : ':' ∉ text) : Tag.isSexagesimal text = false := by
  rw [Tag.isSexagesimal, splitAt_eq ':' none]

theorem mem_exponentText {numeral : Numeral} {character : Char}
    (member : character ∈ exponentText numeral) :
    isDigit character = true ∨ character ∈ "-+eE".toList := by
  unfold exponentText at member
  cases written : numeral.exponent with
  | none =>
      rw [written] at member
      contradiction
  | some exponent =>
      rw [written] at member
      exact exponent.mem_text member

theorem head?_exponentText {numeral : Numeral} {character : Char}
    (found : (exponentText numeral).head? = some character) :
      character = 'e' ∨ character = 'E' := by
  unfold exponentText at found
  cases written : numeral.exponent with
  | none =>
      rw [written] at found
      contradiction
  | some exponent =>
      rw [written] at found
      obtain rfl := Option.some.inj found
      exact exponent.marked

theorem unsignedText_of_pointed {numeral : Numeral} (pointed : numeral.fraction ≠ []) :
    unsignedText numeral = numeral.whole ++ '.' :: (numeral.fraction ++ exponentText numeral) := by
  rw [unsignedText, Numeral.fractionText, if_neg (by simpa using pointed)]
  rfl

theorem unsignedText_of_pointless {numeral : Numeral} (pointless : numeral.fraction = []) :
    unsignedText numeral = numeral.whole ++ exponentText numeral := by
  rw [unsignedText, pointless]
  rfl

/-- Without a point a number has not the form of a real one. -/
theorem isFloat_of_pointless {numeral : Numeral} (pointless : numeral.fraction = []) :
    Tag.isFloat numeral.text = false := by
  have none : ∀ character ∈ unsignedText numeral, (character != '.') = true := by
    rw [unsignedText_of_pointless pointless]
    refine List.forall_mem_append.mpr ⟨fun digit member => ?_, fun character member => ?_⟩
    · exact bne_iff_ne.mpr (digit_ne (whole_isDigit numeral digit member) (by decide))
    · obtain digit | mark := mem_exponentText member
      · exact bne_iff_ne.mpr (digit_ne digit (by decide))
      · have each : ∀ mark ∈ "-+eE".toList, (mark != '.') = true :=
          List.all_iff_forall_prop.mp (by decide)
        exact each character mark
  rw [Tag.isFloat, dropSign_numeral]
  simp only [List.takeWhile_eq_self_iff.mpr none, List.drop_length]

/-- With a point it is its exponent that decides. -/
theorem isFloat_of_pointed {numeral : Numeral} (pointed : numeral.fraction ≠ []) :
    Tag.isFloat numeral.text = Tag.isExponent (exponentText numeral) := by
  have whole : (unsignedText numeral).takeWhile (· != '.') = numeral.whole := by
    rw [unsignedText_of_pointed pointed, List.takeWhile_append_of_pos, List.takeWhile_cons_of_neg,
      List.append_nil]
    · decide
    · exact fun digit member =>
        bne_iff_ne.mpr (digit_ne (whole_isDigit numeral digit member) (by decide))
  have behind : (unsignedText numeral).drop numeral.whole.length =
      '.' :: (numeral.fraction ++ exponentText numeral) := by
    rw [unsignedText_of_pointed pointed, List.drop_left]
  have afterDigits : (numeral.fraction ++ exponentText numeral).dropWhile Tag.isDigitOrMark =
      exponentText numeral := by
    rw [List.dropWhile_append_of_pos fun digit member => by
      rw [Tag.isDigitOrMark, fraction_isDigit numeral digit member, Bool.true_or]]
    cases found : exponentText numeral with
    | nil => rfl
    | cons mark tail =>
        refine List.dropWhile_cons_of_neg ?_
        rcases @head?_exponentText numeral _ (by rw [found]; rfl) with rfl | rfl <;> decide
  have digits := isDigits_eq_true numeral.filled (whole_isDigit numeral)
  have decimal := isSexagesimal_eq_false (@not_mem_digits _ ':' (whole_isDigit numeral) (by decide))
  rw [Tag.isFloat, dropSign_numeral]
  simp only [whole, behind, afterDigits, digits, decimal, Bool.true_and,
    Bool.false_and, Bool.or_false]
  rw [if_neg (by simpa using numeral.filled)]

theorem isExponent_iff (numeral : Numeral) : Tag.isExponent (exponentText numeral) = true ↔
    ∀ exponent, numeral.exponent = some exponent → exponent.sign ≠ none := by
  unfold exponentText
  cases written : numeral.exponent with
  | none => simp [Tag.isExponent]
  | some exponent =>
      obtain ⟨mark, sign, digits, marked, filled, isDigits⟩ := exponent
      obtain ⟨first, others, rfl⟩ := List.exists_cons_of_ne_nil filled
      have digit := isDigits first List.mem_cons_self
      obtain _ | _ | _ := sign
      · have unsigned : (first == '+' || first == '-') = false := by
          rw [Bool.or_eq_false_iff, beq_eq_false_iff_ne, beq_eq_false_iff_ne]
          exact ⟨digit_ne digit (by decide), digit_ne digit (by decide)⟩
        have refused : Tag.isExponent (mark :: first :: others) = false := by
          rw [Tag.isExponent, unsigned, Bool.and_false, Bool.false_and, Bool.false_and]
        refine ⟨fun accepted => ?_, fun signed => absurd rfl (signed _ rfl)⟩
        rw [show (Option.map Exponent.text _).getD [] = mark :: first :: others from rfl,
          refused] at accepted
        contradiction
      all_goals
        refine ⟨fun _ exponent same => ?_, fun _ => ?_⟩
        · obtain rfl := Option.some.inj same
          exact Option.some_ne_none _
        · simp [Exponent.text, signText, Tag.isExponent, marked, digit]
          exact fun other member => isDigits other (List.mem_cons_of_mem _ member)

theorem isInt_of_whole {numeral : Numeral} (pointless : numeral.fraction = [])
    (unmarked : numeral.exponent = none) : Tag.isInt numeral.text = true := by
  have unsigned : unsignedText numeral = numeral.whole := by
    rw [unsignedText_of_pointless pointless, exponentText, unmarked]
    exact List.append_nil _
  rw [Tag.isInt, dropSign_numeral, unsigned]
  have bare := numeral.bare
  split
  · rfl
  · rename_i whole
    rw [whole] at bare
    exact absurd (bare rfl) (by simp)
  · rename_i whole
    rw [whole] at bare
    exact absurd (bare rfl) (by simp)
  · rename_i single _ _ whole
    rw [whole] at bare
    obtain ⟨-, rfl⟩ := List.cons.inj (bare rfl)
    exact absurd rfl single
  · rw [isDigits_eq_true numeral.filled (whole_isDigit numeral), Bool.true_or]

/-- The mark of an exponent is among the characters of its number. -/
theorem exists_mark {numeral : Numeral} {exponent : Exponent}
    (marked : numeral.exponent = some exponent) :
    ∃ first others, unsignedText numeral = first :: others ∧ isDigit first = true ∧
      exponent.mark ∈ others := by
  obtain ⟨first, others, unsigned, digit⟩ := exists_unsigned numeral
  refine ⟨first, others, unsigned, digit, ?_⟩
  have member : exponent.mark ∈ unsignedText numeral := by
    simp [unsignedText, exponentText, marked, Exponent.text]
  rw [unsigned] at member
  refine (List.mem_cons.mp member).resolve_left fun same => ?_
  rcases exponent.marked with mark | mark
  all_goals
    rw [mark] at same
    exact digit_ne digit (by decide) same.symm

theorem not_mem_unsigned {numeral : Numeral} {character : Char}
    (other : (isDigit character || "-+.eE".toList.contains character) = false) :
    character ∉ unsignedText numeral := by
  intro member
  refine @not_mem_numeral numeral _ other ?_
  rw [numeral_text]
  exact List.mem_append_right _ member

theorem isInt_of_exponent {numeral : Numeral} {exponent : Exponent}
    (marked : numeral.exponent = some exponent) : Tag.isInt numeral.text = false := by
  obtain ⟨first, others, unsigned, digit, member⟩ := exists_mark marked
  have decimal := isSexagesimal_eq_false (@not_mem_unsigned numeral ':' (by decide))
  have noDigit : Tag.isDigitOrMark exponent.mark = false := by
    rcases exponent.marked with mark | mark <;> rw [mark] <;> decide
  have noOctal : (exponent.mark == '_' || (baseDigit? 8 exponent.mark).isSome) = false := by
    rcases exponent.marked with mark | mark <;> rw [mark] <;> decide
  have binary := @not_mem_unsigned numeral 'b' (by decide)
  have hexadecimal := @not_mem_unsigned numeral 'x' (by decide)
  rw [Tag.isInt, dropSign_numeral]
  rw [unsigned] at decimal binary hexadecimal ⊢
  split
  · rename_i zero
    obtain ⟨-, rfl⟩ := List.cons.inj zero
    contradiction
  · rename_i marked
    rw [marked] at binary
    exact absurd (by simp) binary
  · rename_i marked
    rw [marked] at hexadecimal
    exact absurd (by simp) hexadecimal
  · rename_i digits _ _ _ zero
    obtain ⟨-, rfl⟩ := List.cons.inj zero
    rw [Tag.isBaseDigits, Bool.and_eq_false_imp]
    exact fun _ => List.all_eq_false.mpr ⟨exponent.mark, member, by rw [noOctal]; decide⟩
  · rw [decimal, Bool.or_false, Tag.isDigits, Bool.and_eq_false_imp]
    exact fun _ => List.all_eq_false.mpr ⟨exponent.mark, member, by rw [noDigit]; decide⟩

/-- No day is written where something other than a digit stands in front of the first minus sign. -/
theorem takeMark_year {front behind : List Char} {mark : Char} {year : Nat} (unsigned : '-' ∉ front)
    (noDigit : isDigit mark = false) (other : mark ≠ '-')
    (taken : Timestamp.takeNumber 4 4 (front ++ mark :: behind) = some (year, text)) :
    Timestamp.takeMark '-' text = none := by
  unfold Timestamp.takeNumber at taken
  dsimp only at taken
  split at taken
  · contradiction
  · rename_i long
    obtain ⟨-, rfl⟩ := Prod.mk.inj (Option.some.inj taken)
    have start := List.takeWhile_prefix isDigit (l := (front ++ mark :: behind).take 4)
    have whole : ((front ++ mark :: behind).take 4).takeWhile isDigit =
      (front ++ mark :: behind).take 4 := by
      refine start.eq_of_length (Nat.le_antisymm start.length_le ?_)
      have := List.length_take_le 4 (front ++ mark :: behind)
      omega
    have within : 4 ≤ front.length := by
      by_contra short
      obtain ⟨further, left⟩ : ∃ further, 4 - front.length = further + 1 :=
        ⟨3 - front.length, by omega⟩
      have member : mark ∈ (front ++ mark :: behind).take 4 := by
        rw [List.take_append, left, List.take_succ_cons]
        simp
      rw [← whole] at member
      rw [List.mem_takeWhile_imp member] at noDigit
      contradiction
    have length : (((front ++ mark :: behind).take 4).takeWhile isDigit).length = 4 := by
      rw [whole, List.length_take, List.length_append]
      omega
    rw [length, List.drop_append_of_le_length within]
    cases left : front.drop 4 with
    | nil => exact if_neg (by simpa using other)
    | cons first rest =>
        refine if_neg ?_
        rw [beq_iff_eq]
        rintro rfl
        exact unsigned (List.mem_of_mem_drop (i := 4) (by rw [left]; exact List.mem_cons_self))

theorem takeDate_eq_none {front behind : List Char} {mark : Char} (unsigned : '-' ∉ front)
    (noDigit : isDigit mark = false) (other : mark ≠ '-') :
    Timestamp.takeDate (front ++ mark :: behind) = none := by
  unfold Timestamp.takeDate
  cases taken : Timestamp.takeNumber 4 4 (front ++ mark :: behind) with
  | none => rfl
  | some year =>
      have none := takeMark_year unsigned noDigit other taken
      simp [none]

theorem isTimestamp_of_exponent {numeral : Numeral} {exponent : Exponent}
    (marked : numeral.exponent = some exponent) : Tag.isTimestamp numeral.text = false := by
  have noDate : Timestamp.takeDate numeral.text = none := by
    rw [numeral_text]
    cases numeral.negative with
    | true => rfl
    | false =>
        have written : exponentText numeral = exponent.mark ::
          (signText exponent.sign ++ exponent.digits) := by
          rw [exponentText, marked]
          rfl
        have unsigned : '-' ∉ numeral.whole ++ Numeral.fractionText numeral.fraction := by
          rw [List.mem_append, not_or]
          refine ⟨not_mem_digits (whole_isDigit numeral) (by decide), ?_⟩
          unfold Numeral.fractionText
          split
          · exact List.not_mem_nil
          · rw [List.mem_cons, not_or]
            exact ⟨by decide, not_mem_digits (fraction_isDigit numeral) (by decide)⟩
        change Timestamp.takeDate (unsignedText numeral) = none
        rw [unsignedText, written, ← List.append_assoc]
        refine takeDate_eq_none unsigned ?_ ?_
        all_goals
          rcases exponent.marked with mark | mark
          all_goals
            rw [mark]
            decide
  rw [Tag.isTimestamp, Timestamp.ofText?, noDate]
  rfl

/-! ## Values -/

/-- A number whose exponent, if it has one, stands behind a point and has a sign. -/
def Standard (numeral : Numeral) : Prop :=
  ∀ exponent, numeral.exponent = some exponent → numeral.fraction ≠ [] ∧ exponent.sign ≠ none

instance (numeral : Numeral) : Decidable (Standard numeral) :=
  inferInstanceAs (Decidable (∀ exponent, numeral.exponent = some exponent → _))

theorem visible_numeral {numeral : Numeral} :
    ∀ character ∈ numeral.text, 0x21 ≤ character.toNat ∧ character.toNat < 0x80 := by
  intro character member
  obtain digit | mark := numeral.mem_text member
  · have bounds := visible_of_isDigit digit
    omega
  · have each : ∀ mark ∈ "-+.eE".toList, 0x21 ≤ mark.toNat ∧ mark.toNat < 0x80 :=
      List.all_iff_forall_prop.mp (by decide)
    exact each character mark

theorem visible_unsigned {numeral : Numeral} :
    ∀ character ∈ unsignedText numeral, 0x21 ≤ character.toNat ∧ character.toNat < 0x80 := by
  intro character member
  refine @visible_numeral numeral character ?_
  rw [numeral_text]
  exact List.mem_append_right _ member

theorem integer?_digits (filled : digits ≠ []) (each : ∀ digit ∈ digits, isDigit digit = true)
    (within : digits.length ≤ numeralLimit) : integer? 10 digits =
      some (numberOf digits : Int) := by
  have bare : bareNumeral digits = digits := by
    refine bareNumeral_eq_self_of_visible fun digit member => ?_
    have bounds := visible_of_isDigit (each digit member)
    omega
  have unsigned : takeSign digits = (false, digits) := by
    obtain ⟨first, others, rfl⟩ := List.exists_cons_of_ne_nil filled
    exact takeSign_unsigned (each first List.mem_cons_self)
  have short : ¬numeralLimit < (digitValues digits).length := by
    rw [digitValues, List.length_map]
    omega
  rw [integer?, bare, unsigned]
  simp [separatedDigits?_digits filled each, short, numberOf]

/-- A whole number without sign is read in base ten. -/
theorem unsignedInt_whole {numeral : Numeral} (within : numeral.whole.length ≤ numeralLimit) :
    Scalar.unsignedInt numeral.whole = .ok (numberOf numeral.whole : Int) := by
  by_cases zero : numeral.whole = ['0']
  · rw [zero]
    rfl
  · have each := whole_isDigit numeral
    have nonzero (digits : List Char) : numeral.whole ≠ '0' :: digits :=
      fun eq => zero (numeral.bare (by rw [eq]; rfl))
    have decimal : Scalar.wholeNumber 10 numeral.whole = .ok (numberOf numeral.whole : Int) := by
      rw [Scalar.wholeNumber, integer?_digits numeral.filled each within]
      rfl
    have single := splitAt_eq ':' (not_mem_digits each (by decide))
    rw [Scalar.unsignedInt.eq_6 _ numeral.filled zero (fun _ => nonzero _) (fun _ => nonzero _)
      nonzero, single]
    simp [List.mapM_cons, decimal]

/-- A whole number is read in its own base. -/
theorem int_numeral {numeral : Numeral} (portable : numeral.Portable)
    (pointless : numeral.fraction = [])
    (unmarked : numeral.exponent = none) : Scalar.int numeral.text = .ok numeral.value := by
  have unsigned : unsignedText numeral = numeral.whole := by
    rw [unsignedText_of_pointless pointless, exponentText, unmarked]
    exact List.append_nil _
  rw [Scalar.int, withoutUnderscores_eq (not_mem_numeral (by decide)), takeSign_numeral, unsigned]
  simp only [unsignedInt_whole (portable unmarked pointless), Numeral.value, unmarked, pointless,
    Numeral.coefficient, List.append_nil]
  rfl

/-- A number with the mark of its exponent in lower case. -/
def lowered (numeral : Numeral) : Numeral :=
  { numeral with
    exponent := numeral.exponent.map fun exponent =>
      { exponent with mark := 'e', marked := .inl rfl } }

theorem value_lowered (numeral : Numeral) : (lowered numeral).value = numeral.value := by
  obtain ⟨negative, whole, fraction, _ | exponent, filled, bare, isDigits⟩ := numeral <;> rfl

theorem map_toLower_digits (each : ∀ digit ∈ digits, isDigit digit = true) :
    digits.map Char.toLower = digits := by
  refine (List.map_congr_left fun digit member => ?_).trans (List.map_id digits)
  have bounds := visible_of_isDigit (each digit member)
  refine dif_neg fun capital => ?_
  have least : 'A'.toNat ≤ digit.toNat := UInt32.le_iff_toNat_le.mp capital.1
  have : 'A'.toNat = 0x41 := rfl
  omega

theorem lowercase_numeral (numeral : Numeral) :
    lowercase numeral.text = (lowered numeral).text := by
  have whole := map_toLower_digits (whole_isDigit numeral)
  have fraction := map_toLower_digits (fraction_isDigit numeral)
  have exponent (exponent : Exponent) : exponent.text.map Char.toLower =
      'e' :: (signText exponent.sign ++ exponent.digits) := by
    have digits := map_toLower_digits exponent.isDigits
    have sign : (signText exponent.sign).map Char.toLower = signText exponent.sign := by
      obtain _ | _ | _ := exponent.sign <;> rfl
    have mark : exponent.mark.toLower = 'e' := by
      rcases exponent.marked with mark | mark <;> rw [mark] <;> rfl
    rw [Exponent.text, List.map_cons, List.map_append, mark, sign, digits]
  have point : (Numeral.fractionText numeral.fraction).map Char.toLower =
      Numeral.fractionText numeral.fraction := by
    unfold Numeral.fractionText
    split
    · rfl
    · rw [List.map_cons, fraction]
      rfl
  have minus : (if numeral.negative then ['-'] else []).map Char.toLower =
      if numeral.negative then ['-'] else [] := by
    cases numeral.negative <;> rfl
  rw [lowercase_eq fun character member => (visible_numeral character member).2]
  simp only [Numeral.text, List.map_append, minus, whole, point]
  refine congrArg _ ?_
  unfold lowered
  cases numeral.exponent with
  | none => rfl
  | some written => exact exponent written

theorem ofRatio_eq (negative : Bool) {numerator : Nat} (nonzero : numerator ≠ 0)
    (denominator : Nat) :
    Binary64.ofRatio negative numerator denominator =
      if Binary64.greatestExponent < (Binary64.roundRatio numerator denominator).2 then
        .infinite negative
      else .finite negative (Binary64.roundRatio numerator denominator).1
        (Binary64.roundRatio numerator denominator).2 := by
  unfold Binary64.ofRatio
  rw [if_neg nonzero]

theorem negate_ofRatio (numerator denominator : Nat) :
    (Binary64.ofRatio false numerator denominator).negate =
      .ofRatio true numerator denominator := by
  by_cases zero : numerator = 0
  · rw [zero, Binary64.ofRatio, if_pos rfl, Binary64.ofRatio, if_pos rfl]
    rfl
  · rw [ofRatio_eq _ zero, ofRatio_eq _ zero, apply_ite Binary64.negate]
    rfl

theorem negate_ofDecimal (coefficient : Nat) (exponent : Int) :
    (Binary64.ofDecimal false coefficient exponent).negate =
      .ofDecimal true coefficient exponent := by
  have zero : (Binary64.zero false).negate = .zero true := rfl
  have infinite : (Binary64.infinite false).negate = .infinite true := rfl
  unfold Binary64.ofDecimal
  simp only [apply_ite Binary64.negate, negate_ofRatio, zero, infinite]

/-- The power of ten that the digits of a number are counted in. -/
def scale (numeral : Numeral) : Int :=
  (numeral.exponent.map Exponent.size).getD 0 - numeral.fraction.length

theorem value_of_pointed {numeral : Numeral} (pointed : numeral.fraction ≠ []) :
    numeral.value = .float (.ofDecimal numeral.negative numeral.coefficient (scale numeral)) := by
  unfold Numeral.value scale
  cases numeral.exponent with
  | some exponent => rfl
  | none =>
      have filled : numeral.fraction.isEmpty = false := by simpa using pointed
      simp [filled]

theorem exponent?_text (numeral : Numeral) :
    Binary64.exponent? (exponentText numeral) =
      some ((numeral.exponent.map Exponent.size).getD 0) := by
  unfold exponentText
  cases numeral.exponent with
  | none => rfl
  | some exponent =>
      have sign := takeSign_signText exponent.sign exponent.filled exponent.isDigits []
      rw [List.append_nil] at sign
      change Binary64.exponent? exponent.text = some exponent.size
      rw [Exponent.text, Binary64.exponent?, if_pos (by simpa using exponent.marked), sign]
      simp [separatedDigits?_digits exponent.filled exponent.isDigits, Exponent.size, numberOf]

theorem optionalDigits?_digits (each : ∀ digit ∈ digits, isDigit digit = true) :
    Binary64.optionalDigits? digits = some (digitValues digits) := by
  cases digits with
  | nil => rfl
  | cons first others => exact separatedDigits?_digits (List.cons_ne_nil _ _) each

theorem isDigitOrMark_of_isDigit {character : Char} (digit : isDigit character = true) :
    Binary64.isDigitOrMark character = true := by
  rw [isDigit_eq_isDigit] at digit
  rw [Binary64.isDigitOrMark, baseDigit?_eq_some digit]
  rfl

/-- The number behind its sign is read with its digits in front of the point and behind it. -/
theorem unsigned?_pointed {numeral : Numeral} (pointed : numeral.fraction ≠ []) (negative : Bool) :
    Binary64.unsigned? negative (unsignedText numeral) =
      some (.ofDecimal negative numeral.coefficient (scale numeral)) := by
  have wholeEach :=
    fun digit member => isDigitOrMark_of_isDigit (whole_isDigit numeral digit member)
  have fractionEach :=
    fun digit member => isDigitOrMark_of_isDigit (fraction_isDigit numeral digit member)
  have ends : (exponentText numeral).takeWhile Binary64.isDigitOrMark = [] ∧
      (exponentText numeral).dropWhile Binary64.isDigitOrMark = exponentText numeral := by
    cases found : exponentText numeral with
    | nil => exact ⟨rfl, rfl⟩
    | cons mark tail =>
        have other : ¬Binary64.isDigitOrMark mark = true := by
          rcases @head?_exponentText numeral _ (by rw [found]; rfl) with rfl | rfl <;> decide
        exact ⟨List.takeWhile_cons_of_neg other, List.dropWhile_cons_of_neg other⟩
  have point : ¬Binary64.isDigitOrMark '.' = true := by decide
  have filled : numeral.whole.isEmpty = false := by simpa using numeral.filled
  unfold Binary64.unsigned?
  simp only [unsignedText_of_pointed pointed, List.takeWhile_append_of_pos wholeEach,
    List.dropWhile_append_of_pos wholeEach, List.takeWhile_cons_of_neg point,
    List.dropWhile_cons_of_neg point, List.append_nil, List.takeWhile_append_of_pos fractionEach,
    List.dropWhile_append_of_pos fractionEach,
    ends, filled, Bool.false_and, Bool.false_eq_true, if_false, exponent?_text,
    optionalDigits?_digits (whole_isDigit numeral),
    optionalDigits?_digits (fraction_isDigit numeral)]
  simp [scale, Numeral.coefficient, numberOf, digitValues]

/-- What is read as the number without its sign. -/
theorem ofText?_unsigned {numeral : Numeral} (pointed : numeral.fraction ≠ []) :
    Binary64.ofText? (unsignedText numeral) =
      some (.ofDecimal false numeral.coefficient (scale numeral)) := by
  obtain ⟨first, others, unsigned, digit⟩ := exists_unsigned numeral
  have lower : (unsignedText numeral).map Char.toLower = first :: others.map Char.toLower := by
    have same := @map_toLower_digits [first] (by simpa using digit)
    rw [unsigned, List.map_cons, (List.cons.inj same).1]
  have unnamed {name : String} (begins : name.toList.head?.any isDigit = false) :
      String.ofList ((unsignedText numeral).map Char.toLower) ≠ name := by
    rintro rfl
    rw [String.toList_ofList, lower, List.head?_cons, Option.any_some, digit] at begins
    contradiction
  have sign : takeSign (unsignedText numeral) = (false, unsignedText numeral) := by
    rw [unsigned]
    exact takeSign_unsigned digit
  rw [Binary64.ofText?, bareNumeral_eq_self_of_visible visible_unsigned, sign]
  simp only [@unnamed "inf" (by decide), @unnamed "infinity" (by decide),
    @unnamed "nan" (by decide), if_false]
  exact unsigned?_pointed pointed false

theorem unsignedFloat_pointed {numeral : Numeral} (pointed : numeral.fraction ≠ []) :
    Scalar.unsignedFloat (unsignedText numeral) =
      .ok (.ofDecimal false numeral.coefficient (scale numeral)) := by
  obtain ⟨first, others, unsigned, digit⟩ := exists_unsigned numeral
  have unnamed {name : String} (begins : name.toList.head?.any isDigit = false) :
      (unsignedText numeral == name.toList) = false := by
    rw [beq_eq_false_iff_ne]
    intro same
    rw [← same, unsigned, List.head?_cons, Option.any_some, digit] at begins
    contradiction
  have decimal : (unsignedText numeral).contains ':' = false := by
    rw [Bool.eq_false_iff, Ne, List.contains_iff_mem]
    exact not_mem_unsigned (by decide)
  rw [Scalar.unsignedFloat, unnamed (by decide), unnamed (by decide), decimal]
  simp only [Bool.false_eq_true, if_false]
  rw [Scalar.realNumber, ofText?_unsigned pointed]
  rfl

/-- A number with a point is read to its value. -/
theorem float_numeral {numeral : Numeral} (pointed : numeral.fraction ≠ []) :
    Scalar.float numeral.text = .ok numeral.value := by
  have filled : (lowered numeral).text.isEmpty = false := by
    obtain ⟨first, rest, starts, -⟩ := (lowered numeral).exists_text_eq_cons
    rw [starts]
    rfl
  have read := @unsignedFloat_pointed (lowered numeral) pointed
  rw [Scalar.float, withoutUnderscores_eq (not_mem_numeral (by decide)), lowercase_numeral,
    ← value_lowered, @value_of_pointed (lowered numeral) pointed]
  simp only [filled, Bool.false_eq_true, if_false, takeSign_numeral, read]
  refine congrArg (fun value => Except.ok (Value.float value)) ?_
  cases (lowered numeral).negative with
  | false => exact if_neg Bool.false_ne_true
  | true => exact (if_pos rfl).trans (negate_ofDecimal _ _)

/-- A number is read to its value, unless it has an exponent without a point or without a sign: that
is a text. -/
theorem value_numeral {numeral : Numeral} (portable : numeral.Portable) :
    Scalar.value (Tag.ofPlain (String.ofList numeral.text)) (String.ofList numeral.text) =
      .ok (if Standard numeral then numeral.value else .str (String.ofList numeral.text)) := by
  rw [ofPlain_numeral]
  by_cases pointed : numeral.fraction = []
  · simp only [isFloat_of_pointless pointed, Bool.false_eq_true, if_false]
    cases marked : numeral.exponent with
    | none =>
        have standard : Standard numeral := fun exponent same => by simp [marked] at same
        simp only [isInt_of_whole pointed marked, standard, if_true]
        simpa [Scalar.value] using int_numeral portable pointed marked
    | some exponent =>
        have other : ¬Standard numeral := fun standard => (standard exponent marked).1 pointed
        simp only [isInt_of_exponent marked, isTimestamp_of_exponent marked, other,
          Bool.false_eq_true, if_false]
        rfl
  · simp only [isFloat_of_pointed pointed, isExponent_iff]
    by_cases signed : ∀ exponent, numeral.exponent = some exponent → exponent.sign ≠ none
    · have standard : Standard numeral := fun exponent marked => ⟨pointed, signed exponent marked⟩
      rw [if_pos signed, if_pos standard]
      simpa [Scalar.value] using float_numeral pointed
    · obtain ⟨exponent, refused⟩ := not_forall.mp signed
      obtain ⟨marked, unsigned⟩ := Classical.not_imp.mp refused
      have other : ¬Standard numeral := fun standard => unsigned (standard exponent marked).2
      rw [if_neg signed, if_neg other]
      simp only [isInt_of_exponent marked, isTimestamp_of_exponent marked,
        Bool.false_eq_true, if_false]
      rfl

end ApiCompiler.Yaml
