import ApiCompiler.Host.Name
import ApiCompiler.Proofs.Outcome
import ApiCompiler.Proofs.Text.Pieces
import ApiCompiler.Proofs.Wire.Percent

/-!
# Characters of the names of hosts

Names of hosts, whatever script they come from, are written in the characters of hosts. Of a piece
that is in ASCII each character is checked; behind the mark, where it stands for other characters,
those are checked instead, and the ASCII ones among them are the characters of the piece.
-/

namespace ApiCompiler.Host

open Text Wire

namespace Punycode

theorem threshold_le (place bias : Nat) : threshold place bias ≤ 26 :=
  Nat.min_le_left ..

theorem isHostSafe_digit {value : Nat} (small : value < 36) : isHostSafe (digit value) = true :=
  (show ∀ value : Fin 36, isHostSafe (digit value) = true by decide) ⟨value, small⟩

theorem isHostSafe_of_mem_writeNumber (bias place value : Nat) :
    ∀ character ∈ writeNumber bias place value, isHostSafe character = true := by
  have limit (place : Nat) := threshold_le place bias
  fun_induction writeNumber bias place value with
  | case1 place value least last =>
      refine List.forall_mem_singleton.mpr (isHostSafe_digit ?_)
      have := limit place
      omega
  | case2 place value least more induction =>
      refine List.forall_mem_cons.mpr ⟨isHostSafe_digit ?_, induction⟩
      have small : least ≤ 26 := limit place
      have below : (value - least) % (36 - least) < 36 - least := Nat.mod_lt _ (by omega)
      omega

/-- What is written so far can stand in a host. -/
def Written.IsSafe (written : Written) : Prop :=
  ∀ character ∈ written.text, isHostSafe character = true

theorem Written.isSafe_meet {written : Written} (safe : written.IsSafe) (next code : Nat) :
    (written.meet next code).IsSafe := by
  unfold Written.meet
  split
  · exact safe
  · split
    · exact List.forall_mem_append.mpr ⟨safe, isHostSafe_of_mem_writeNumber _ _ _⟩
    · exact safe

theorem isSafe_foldl_meet (next : Nat) (label : List Nat) {written : Written}
    (safe : written.IsSafe) :
    (label.foldl (·.meet next) written).IsSafe := by
  induction label generalizing written with
  | nil => exact safe
  | cons code label induction => exact induction (written.isSafe_meet safe next code)

theorem isSafe_writeFrom (label others : List Nat) {reached : Nat} {written : Written}
    (safe : written.IsSafe) : (writeFrom label reached written others).IsSafe := by
  induction others generalizing reached written with
  | nil => exact safe
  | cons next others induction =>
      have ahead : Written.IsSafe
          { written with delta := written.delta + (next - reached) * (written.count + 1) } := safe
      have met := isSafe_foldl_meet next label ahead
      exact induction fun character member => met character member

/-- What is written for characters are numbers, and those of the characters that are in ASCII. -/
theorem mem_write {label : List Nat} {character : Char} (member : character ∈ write label) :
    isHostSafe character = true ∨ ∃ code ∈ label, code < 0x80 ∧ character = Char.ofNat code := by
  rcases List.mem_append.mp member with front | numbers
  · split at front
    · contradiction
    · rcases List.mem_append.mp front with plain | hyphen
      · obtain ⟨code, held, rfl⟩ := List.mem_map.mp plain
        obtain ⟨present, ascii⟩ := List.mem_filter.mp held
        exact .inr ⟨code, present, of_decide_eq_true ascii, rfl⟩
      · rw [List.mem_singleton.mp hyphen]
        exact .inl (by decide)
  · exact .inl
      (isSafe_writeFrom label _ (fun _ none => absurd none List.not_mem_nil) character numbers)

theorem isHostSafe_of_baseDigit? {character : Char} {value : Nat}
    (read : baseDigit? 36 character = some value) : isHostSafe character = true := by
  have ascii : character.toNat < 0x80 := by
    by_contra beyond
    rw [baseDigit?, if_neg (by simp; omega), if_neg (by simp; omega),
      if_neg (by simp; omega)] at read
    contradiction
  have each : ∀ code : Fin 0x80, (baseDigit? 36 (Char.ofNat code)).isSome = true →
      isHostSafe (Char.ofNat code) = true := by decide +kernel
  exact forall_ascii (fun character => (baseDigit? 36 character).isSome = true →
    isHostSafe character = true) each ascii (by rw [read]; rfl)

theorem subset_of_finish {reading after : Reading} {delta : Nat}
    (finished : reading.finish delta = some after) : reading.label ⊆ after.label := by
  simp only [Reading.finish] at finished
  split at finished
  · contradiction
  · obtain rfl := Option.some.inj finished
    intro code held
    rw [← List.take_append_drop ((reading.spot + delta) % (reading.label.length + 1)) reading.label]
      at held
    rcases List.mem_append.mp held with before | behind
    · exact List.mem_append_left _ before
    · exact List.mem_append_right _ (List.mem_cons_of_mem _ behind)

/-- Reading a digit drops none of the characters that have been read. -/
theorem subset_of_meet {reading after : Reading} {letter : Char}
    (met : reading.meet letter = some after) :
    isHostSafe letter = true ∧ reading.label ⊆ after.label := by
  obtain ⟨value, read, counted⟩ := Option.bind_eq_some_iff.mp met
  refine ⟨isHostSafe_of_baseDigit? read, ?_⟩
  -- Only the value of the digit differs between letters and digits.
  generalize (if value < 10 then value + 26 else value - 10) = weighed at counted
  dsimp only at counted
  split at counted
  · exact subset_of_finish counted
  · obtain rfl := Option.some.inj counted
    exact List.Subset.refl _

theorem subset_of_foldlM_meet {digits : List Char} {reading after : Reading}
    (met : digits.foldlM Reading.meet reading = some after) :
    (∀ letter ∈ digits, isHostSafe letter = true) ∧ reading.label ⊆ after.label := by
  induction digits generalizing reading with
  | nil =>
      obtain rfl := Option.some.inj met
      exact ⟨fun _ none => absurd none List.not_mem_nil, List.Subset.refl _⟩
  | cons letter digits induction =>
      obtain ⟨middle, first, rest⟩ := Option.bind_eq_some_iff.mp met
      obtain ⟨safe, kept⟩ := subset_of_meet first
      obtain ⟨others, keptAfter⟩ := induction rest
      exact ⟨List.forall_mem_cons.mpr ⟨safe, others⟩, List.Subset.trans kept keptAfter⟩

/-- What numbers and ASCII characters are read from is written in the characters of hosts, but for
the ASCII characters, which are among those that it stands for. -/
theorem mem_of_read {text : List Char} {label : List Nat}
    (ascii : ∀ character ∈ text, character.toNat < 0x80) (success : read text = some label) :
    ∀ character ∈ text, isHostSafe character = true ∨ character.toNat ∈ label := by
  intro character member
  rw [read] at success
  rcases not_mem_or_exists_last '-' text with absent | ⟨front, behind, rfl, absent⟩
  · rw [takeWhile_reverse_eq_self absent] at success
    obtain ⟨reading, met, -⟩ := Option.bind_eq_some_iff.mp success
    exact .inl ((subset_of_foldlM_meet met).1 character member)
  · rw [takeWhile_reverse_append_cons absent, dropLast_take_append_cons] at success
    obtain ⟨reading, met, done⟩ := Option.bind_eq_some_iff.mp success
    obtain ⟨safe, kept⟩ := subset_of_foldlM_meet met
    split at done
    · obtain rfl := Option.some.inj done
      rcases List.mem_append.mp member with plain | last
      · exact .inr (kept (List.mem_map_of_mem plain))
      · rcases List.mem_cons.mp last with rfl | digit
        · exact .inl (by decide)
        · exact .inl (safe character digit)
    · contradiction

end Punycode

/-- A run of characters that is in ASCII only where it holds small letters, digits or the hyphen. -/
def isPlainRange (range : Nat × Nat) : Bool :=
  0x80 ≤ range.1 || [(0x2D, 0x2D), (0x30, 0x39), (0x61, 0x7A)].any fun plain =>
    plain.1 ≤ range.1 && range.2 ≤ plain.2

theorem isHostSafe_of_isPlainRange {range : Nat × Nat}
    (plain : isPlainRange range = true) {code : Nat}
    (ascii : code < 0x80) (first : range.1 ≤ code) (last : code ≤ range.2) :
    isHostSafe (Char.ofNat code) = true := by
  have each : ∀ code : Fin 0x80, code.val = 0x2D ∨ (0x30 ≤ code.val ∧ code.val ≤ 0x39) ∨
      (0x61 ≤ code.val ∧ code.val ≤ 0x7A) → isHostSafe (Char.ofNat code) = true := by
    decide +kernel
  refine each ⟨code, ascii⟩ ?_
  simp only [isPlainRange, List.any_cons, List.any_nil, Bool.or_eq_true, Bool.and_eq_true,
    decide_eq_true_eq, Bool.false_eq_true, or_false] at plain
  dsimp only
  omega

theorem isHostSafe_of_isWithin {ranges : List (Nat × Nat)} (plain : ranges.all isPlainRange = true)
    {code : Nat} (ascii : code < 0x80) (held : isWithin ranges code = true) :
    isHostSafe (Char.ofNat code) = true := by
  obtain ⟨range, listed, around⟩ := List.any_eq_true.mp held
  rw [Bool.and_eq_true, decide_eq_true_eq, decide_eq_true_eq] at around
  exact isHostSafe_of_isPlainRange (List.all_eq_true.mp plain range listed) ascii around.1 around.2

theorem isHostSafe_of_isPermitted {code : Nat} (ascii : code < 0x80)
    (held : isPermitted code = true ∨ isBound code = true) :
      isHostSafe (Char.ofNat code) = true := by
  rw [isPermitted, Bool.or_eq_true, Bool.or_eq_true] at held
  rcases held with ((early | late) | other) | bound
  · exact isHostSafe_of_isWithin (by decide +kernel) ascii early
  · exact isHostSafe_of_isWithin (by decide +kernel) ascii late
  · obtain ⟨range, listed, around⟩ := List.any_eq_true.mp other
    rw [Bool.and_eq_true, Bool.and_eq_true, decide_eq_true_eq, decide_eq_true_eq] at around
    have plain : everyOtherRanges.all isPlainRange = true := by decide +kernel
    exact isHostSafe_of_isPlainRange (List.all_eq_true.mp plain range listed) ascii around.1.1
      around.1.2
  · exact isHostSafe_of_isWithin (by decide +kernel) ascii bound

theorem isPermitted_of_checkCharacters {before behind : List Nat}
    (success : checkCharacters before behind = .ok ()) :
    ∀ code ∈ behind, isPermitted code = true ∨ isBound code = true := by
  induction behind generalizing before with
  | nil => exact fun _ none => absurd none List.not_mem_nil
  | cons code behind induction =>
      rw [checkCharacters] at success
      split at success
      · rename_i permitted
        exact List.forall_mem_cons.mpr ⟨.inl permitted, induction success⟩
      · split at success
        · contradiction
        · rename_i bound
          split at success
          · rw [Bool.not_eq_true', Bool.not_eq_false] at bound
            exact List.forall_mem_cons.mpr ⟨.inr bound, induction success⟩
          · contradiction

theorem isPermitted_of_checkPiece {piece : List Nat} (success : checkPiece piece = .ok ()) :
    ∀ code ∈ piece, isPermitted code = true ∨ isBound code = true := by
  simp only [checkPiece] at success
  split at success
  · contradiction
  · obtain ⟨_, checked, -⟩ := Outcome.bind_eq_ok.mp success
    exact isPermitted_of_checkCharacters checked

theorem isHostSafe_of_checkAsciiPiece {piece : List Char}
    (ascii : ∀ character ∈ piece, character.toNat < 0x80)
    (success : checkAsciiPiece piece = .ok ()) :
    ∀ character ∈ piece, isHostSafe character = true := by
  have safe {codes : List Nat} (checked : checkPiece codes = .ok ()) {character : Char}
      (member : character ∈ piece) (held : character.toNat ∈ codes) :
        isHostSafe character = true := by
    have plain := isHostSafe_of_isPermitted (ascii character member)
      (isPermitted_of_checkPiece checked _ held)
    rwa [Char.ofNat_toNat] at plain
  intro character member
  simp only [checkAsciiPiece] at success
  split at success
  · rename_i marked
    obtain ⟨written, rfl⟩ := List.isPrefixOf_iff_prefix.mp marked
    rw [List.drop_left] at success
    split at success
    · contradiction
    · split at success
      · rename_i label read
        rcases List.mem_append.mp member with front | behind
        · exact List.all_eq_true.mp (show asciiMark.all isHostSafe = true by decide) character front
        · have plain (character : Char) (member : character ∈ written) : character.toNat < 0x80 :=
            ascii character (List.mem_append_right _ member)
          exact (Punycode.mem_of_read plain read character behind).elim id (safe success member)
      · contradiction
  · exact safe success member (List.mem_map_of_mem member)

/-- The ASCII piece that stands for a piece is written in the characters of hosts. -/
theorem isHostSafe_of_asciiPiece {piece written : List Char}
    (success : asciiPiece piece = .ok written) :
    ∀ character ∈ written, isHostSafe character = true := by
  simp only [asciiPiece] at success
  split at success
  · rename_i ascii
    obtain ⟨_, checked, success⟩ := Outcome.bind_eq_ok.mp success
    rw [pure_bind] at success
    split at success
    · contradiction
    · obtain rfl := Except.ok.inj success
      exact isHostSafe_of_checkAsciiPiece (by simpa using ascii) checked
  · obtain ⟨_, checked, success⟩ := Outcome.bind_eq_ok.mp success
    rw [pure_bind] at success
    split at success
    · contradiction
    · obtain rfl := Except.ok.inj success
      refine List.forall_mem_append.mpr ⟨List.all_eq_true.mp (by decide),
        fun character member => ?_⟩
      rcases Punycode.mem_write member with safe | ⟨code, held, ascii, rfl⟩
      · exact safe
      · exact isHostSafe_of_isPermitted ascii (isPermitted_of_checkPiece checked code held)

theorem isHostSafe_of_mem_joinWith {pieces : List (List Char)}
    (safe : ∀ piece ∈ pieces, ∀ character ∈ piece, isHostSafe character = true) :
    ∀ character ∈ joinWith ['.'] pieces, isHostSafe character = true := by
  intro character member
  rcases mem_joinWith member with ⟨piece, held, inside⟩ | dot
  · exact safe piece held character inside
  · rw [List.mem_singleton.mp dot]
    decide

/-- The ASCII name of a host is written in the characters of hosts. -/
theorem isHostSafe_of_asciiName {name written : List Char}
    (success : asciiName name = .ok written) :
    ∀ character ∈ written, isHostSafe character = true := by
  simp only [asciiName] at success
  split at success
  · contradiction
  · obtain ⟨pieces, each, done⟩ := Outcome.bind_eq_ok.mp success
    have safe : ∀ piece ∈ pieces, ∀ character ∈ piece, isHostSafe character = true := by
      intro piece member
      obtain ⟨source, -, made⟩ := Outcome.exists_mem_of_mapM_eq_ok each piece member
      exact isHostSafe_of_asciiPiece made
    -- An ASCII name that ends with a dot has an empty last piece.
    split at done
    · split at done
      · obtain rfl := Except.ok.inj done
        exact isHostSafe_of_mem_joinWith (List.forall_mem_append.mpr ⟨safe, by simp⟩)
      · contradiction
    · split at done
      · obtain rfl := Except.ok.inj done
        exact isHostSafe_of_mem_joinWith safe
      · contradiction

end ApiCompiler.Host
