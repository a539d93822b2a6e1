import ApiCompiler.Text.Digit
import Mathlib.Data.Nat.Digits.Defs
import Mathlib.Tactic.Common

/-!
# Numerals of numbers

What is read from the decimal numeral of a number is that number. Numerals beyond the limit of
digits are not read at all, so this is stated of the values that reading gives.
-/

namespace ApiCompiler.Text

variable {text : List Char}

theorem toNat_of_isDigit {character : Char} (digit : character.isDigit = true) :
    0x30 ≤ character.toNat ∧ character.toNat ≤ 0x39 := by
  simp only [Char.isDigit, Bool.and_eq_true, decide_eq_true_eq, ge_iff_le] at digit
  exact ⟨UInt32.le_iff_toNat_le.mp digit.1, UInt32.le_iff_toNat_le.mp digit.2⟩

/-- The characters of decimal numerals: digits and the sign in front of them. -/
def isNumeralCharacter (character : Char) : Bool :=
  character.isDigit || character == '-'

theorem toNat_of_isNumeralCharacter {character : Char}
    (plain : isNumeralCharacter character = true) :
    0x2D ≤ character.toNat ∧ character.toNat ≤ 0x39 := by
  rcases Bool.or_eq_true_iff.mp plain with digit | sign
  · have bounds := toNat_of_isDigit digit
    omega
  · rw [beq_iff_eq.mp sign]
    decide

theorem isDigit_of_mem_toDigits {number : Nat} :
    ∀ character ∈ Nat.toDigits 10 number, character.isDigit = true :=
  fun _ member => Nat.isDigit_of_mem_toDigits (by decide) (by decide) member

theorem isNumeralCharacter_of_mem_toDigits {number : Nat} :
    ∀ character ∈ Nat.toDigits 10 number, isNumeralCharacter character = true := by
  intro character member
  rw [isNumeralCharacter, isDigit_of_mem_toDigits character member]
  rfl

theorem trimBy_eq_self {test : Char → Bool} (kept : ∀ character ∈ text, test character = false) :
    trimBy test text = text := by
  have front : text.dropWhile test = text := by
    cases text with
    | nil => rfl
    | cons first rest => rw [List.dropWhile_cons_of_neg (by simp [kept first])]
  have back : text.reverse.dropWhile test = text.reverse := by
    cases found : text.reverse with
    | nil => rfl
    | cons last rest =>
        have member : last ∈ text := List.mem_reverse.mp (found ▸ List.mem_cons_self)
        rw [List.dropWhile_cons_of_neg (by simp [kept last member])]
  rw [trimBy, front, back, List.reverse_reverse]

/-- A text of visible ASCII characters is a numeral as it stands. -/
theorem bareNumeral_eq_self_of_visible
    (visible : ∀ character ∈ text, 0x21 ≤ character.toNat ∧ character.toNat < 0x80) :
    bareNumeral text = text := by
  have ascii : asciiNumeral text = text := by
    refine (List.map_congr_left fun character member => ?_).trans (List.map_id text)
    exact if_pos (visible character member).2
  rw [bareNumeral, ascii]
  refine trimBy_eq_self fun character member => ?_
  have bounds := visible character member
  have filled : character ≠ ' ' := by
    rintro rfl
    exact absurd bounds.1 (by decide)
  simp only [isNumeralBlank, Bool.or_eq_false_iff, beq_eq_false_iff_ne, Bool.and_eq_false_imp,
    decide_eq_true_eq, decide_eq_false_iff_not]
  exact ⟨filled, fun _ => by omega⟩

/-- A numeral of such characters is in ASCII and has no blanks around it. -/
theorem bareNumeral_eq_self (plain : ∀ character ∈ text, isNumeralCharacter character = true) :
    bareNumeral text = text := by
  refine bareNumeral_eq_self_of_visible fun character member => ?_
  have bounds := toNat_of_isNumeralCharacter (plain character member)
  omega

theorem isDigit_eq_isDigit (character : Char) : isDigit character = character.isDigit := by
  simp only [isDigit, Char.isDigit, Char.le_def, ge_iff_le]

theorem baseDigit?_eq_some {character : Char} (plain : character.isDigit = true) :
    baseDigit? 10 character = some (character.toNat - '0'.toNat) := by
  have bounds := toNat_of_isDigit plain
  rw [baseDigit?, if_pos (by simpa using bounds), Option.filter_some, if_pos]
  · rfl
  · rw [decide_eq_true_eq]
    omega

/-- Digits one after another are read. -/
theorem separatedDigits?_eq_some (filled : text ≠ [])
    (plain : ∀ character ∈ text, character.isDigit = true) :
    separatedDigits? 10 text = some (text.map fun character => character.toNat - '0'.toNat) := by
  induction text using separatedDigits?.induct with
  | case1 => exact absurd rfl filled
  | case2 character =>
      rw [separatedDigits?, baseDigit?_eq_some (plain character List.mem_cons_self)]
      rfl
  | case3 character rest =>
      exact absurd (plain '_' (by simp)) (by decide)
  | case4 character rest more separated induction =>
      obtain ⟨plainFirst, plainRest⟩ := List.forall_mem_cons.mp plain
      rw [separatedDigits?, baseDigit?_eq_some plainFirst,
        induction (fun none => more none) plainRest]
      · rfl
      · exact more
      · exact separated

/-- Digits that are read one after another, without underscores, each stand for themselves. -/
theorem separatedDigits?_of_isDigit {digits : List Nat}
    (plain : ∀ character ∈ text, character.isDigit = true)
    (read : separatedDigits? 10 text = some digits) :
    digits = text.map fun character => character.toNat - '0'.toNat := by
  have filled : text ≠ [] := by
    rintro rfl
    cases read
  rw [separatedDigits?_eq_some filled plain] at read
  exact (Option.some.inj read).symm

theorem digitsValue_map_toNat (text : List Char) :
    digitsValue 10 (text.map fun character => character.toNat - '0'.toNat) =
      Nat.ofDigitChars 10 text 0 := by
  rw [digitsValue, List.foldl_map, Nat.ofDigitChars_eq_foldl]
  simp only [Nat.mul_comm]

theorem digitsValue_of_separatedDigits?_toDigits {number : Nat} {digits : List Nat}
    (read : separatedDigits? 10 (Nat.toDigits 10 number) = some digits) :
    digitsValue 10 digits = number := by
  rw [separatedDigits?_of_isDigit isDigit_of_mem_toDigits read, digitsValue_map_toNat,
    Nat.ofDigitChars_ten_toDigits]

/-- Without a sign in front, a numeral is taken as it stands. -/
theorem takeSign_of_isDigit (plain : ∀ character ∈ text, character.isDigit = true) :
    takeSign text = (false, text) := by
  fun_cases takeSign text with
  | case1 rest => exact absurd (plain '-' List.mem_cons_self) (by decide)
  | case2 rest => exact absurd (plain '+' List.mem_cons_self) (by decide)
  | case3 => rfl

/-- What is read from the digits of a number, behind a sign, is the number with that sign. -/
theorem eq_of_integer?_toDigits {text : List Char} {negative : Bool} {number : Nat} {value : Int}
    (plain : ∀ character ∈ text, isNumeralCharacter character = true)
    (sign : takeSign text = (negative, Nat.toDigits 10 number))
    (read : integer? 10 text = some value) :
    value = if negative then -(number : Int) else number := by
  simp only [integer?, bareNumeral_eq_self plain, sign, Nat.reduceBEq, Bool.false_eq_true,
    if_false] at read
  obtain ⟨digits, written, shown⟩ := Option.bind_eq_some_iff.mp read
  split at shown
  · contradiction
  · rw [digitsValue_of_separatedDigits?_toDigits written] at shown
    exact (Option.some.inj shown).symm

/-- The numeral of a number is read as the number, if it is within the limit. -/
theorem integer?_toDigits {number : Nat} (within : number < 10 ^ numeralLimit) :
    integer? 10 (Nat.toDigits 10 number) = some (number : Int) := by
  obtain ⟨digits, read, short, value⟩ : ∃ digits,
      separatedDigits? 10 (Nat.toDigits 10 number) = some digits ∧ digits.length ≤ numeralLimit ∧
        digitsValue 10 digits = number := by
    refine ⟨_, separatedDigits?_eq_some Nat.toDigits_ne_nil isDigit_of_mem_toDigits, ?_, ?_⟩
    · rw [List.length_map]
      exact Nat.toDigitsCore_length 10 (number + 1) number numeralLimit (by decide) within
    · rw [digitsValue_map_toNat, Nat.ofDigitChars_ten_toDigits]
  rw [integer?, bareNumeral_eq_self isNumeralCharacter_of_mem_toDigits,
    takeSign_of_isDigit isDigit_of_mem_toDigits]
  simp [read, value, short]

theorem toList_toString_nat (number : Nat) : (toString number).toList = Nat.toDigits 10 number :=
  Nat.toList_repr

theorem not_mem_toString {mark : Char} (apart : mark.isDigit = false) (number : Nat) :
    mark ∉ (toString number).toList := by
  rw [toList_toString_nat]
  intro member
  exact absurd (isDigit_of_mem_toDigits mark member) (by simp [apart])

theorem toList_toString_ofNat (number : Nat) :
    (toString (Int.ofNat number)).toList = Nat.toDigits 10 number :=
  Nat.toList_repr

theorem toList_toString_negSucc (number : Nat) :
    (toString (Int.negSucc number)).toList = '-' :: Nat.toDigits 10 (number + 1) := by
  change ("-" ++ Nat.repr (number + 1)).toList = _
  rw [String.toList_append, Nat.toList_repr]
  rfl

theorem toList_toString_ne_nil (number : Int) : (toString number).toList ≠ [] := by
  cases number with
  | ofNat number =>
      rw [toList_toString_ofNat]
      exact Nat.toDigits_ne_nil
  | negSucc number =>
      rw [toList_toString_negSucc]
      exact List.cons_ne_nil _ _

theorem isNumeralCharacter_of_mem_toString (number : Int) :
    ∀ character ∈ (toString number).toList, isNumeralCharacter character = true := by
  cases number with
  | ofNat number =>
      rw [toList_toString_ofNat]
      exact isNumeralCharacter_of_mem_toDigits
  | negSucc number =>
      rw [toList_toString_negSucc]
      exact List.forall_mem_cons.mpr ⟨rfl, isNumeralCharacter_of_mem_toDigits⟩

/-- What is read from the numeral of a number is the number. -/
theorem eq_of_integer?_toString {number value : Int}
    (read : integer? 10 (toString number).toList = some value) : value = number := by
  have plain := isNumeralCharacter_of_mem_toString number
  cases number with
  | ofNat number =>
      rw [toList_toString_ofNat] at read plain
      exact eq_of_integer?_toDigits plain (takeSign_of_isDigit isDigit_of_mem_toDigits) read
  | negSucc number =>
      rw [toList_toString_negSucc] at read plain
      exact eq_of_integer?_toDigits plain rfl read

end ApiCompiler.Text
