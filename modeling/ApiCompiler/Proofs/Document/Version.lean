import ApiCompiler.Document.Version
import ApiCompiler.Proofs.Logged
import ApiCompiler.Proofs.Text.Numeral

/-!
# Releases of the document format

A release has two numbers or three. It is accepted exactly where the first of them is three, and
passes without a notice exactly where there are three of them and the second is at most one.
-/

namespace ApiCompiler.Document

open Text

/-- A release of the document format. -/
structure Release where
  major : Nat
  minor : Nat
  patch : Option Nat

namespace Release

/-- The release as it is written: its numbers in decimals, with points between them. -/
def written (release : Release) : String :=
  ".".intercalate ([release.major, release.minor] ++ release.patch.toList |>.map toString)

/-- What is written behind the second number. -/
def tail (release : Release) : List Char :=
  release.patch.elim [] fun patch => '.' :: Nat.toDigits 10 patch

theorem toList_written (release : Release) :
    release.written.toList =
      Nat.toDigits 10 release.major ++ '.' :: (Nat.toDigits 10 release.minor ++ release.tail) := by
  obtain ⟨major, minor, patch⟩ := release
  cases patch <;> simp [written, tail, String.intercalate_cons_cons]

end Release

/-- One text leads another, each cut at its first mark, exactly where both are the same up to the
mark and the rest of the one leads the rest of the other. -/
theorem append_cons_prefix_iff {mark : Char} {front other : List Char} (absent : mark ∉ front)
    (lacks : mark ∉ other) {back rest : List Char} :
    front ++ mark :: back <+: other ++ mark :: rest ↔ front = other ∧ back <+: rest := by
  induction front generalizing other with
  | nil =>
      cases other with
      | nil => simp
      | cons first other =>
          have differs : mark ≠ first := fun same => lacks (same ▸ List.mem_cons_self)
          simp [differs]
  | cons first front induction =>
      rw [List.mem_cons, not_or] at absent
      cases other with
      | nil => simp [Ne.symm absent.1]
      | cons second other =>
          rw [List.mem_cons, not_or] at lacks
          simp [induction absent.2 lacks.2, and_assoc]

theorem point_not_mem_toDigits (number : Nat) : '.' ∉ Nat.toDigits 10 number :=
  fun member => absurd (isDigit_of_mem_toDigits _ member) (by decide)

theorem toDigits_inj {number other : Nat} :
    Nat.toDigits 10 number = Nat.toDigits 10 other ↔ number = other := by
  refine ⟨fun same => ?_, congrArg _⟩
  rw [← Nat.ofDigitChars_ten_toDigits (n := number), same, Nat.ofDigitChars_ten_toDigits]

/-- A number and a point lead a release exactly where it is the first number. -/
theorem number_prefix_written_iff {release : Release} {number : Nat} {back : List Char} :
    Nat.toDigits 10 number ++ '.' :: back <+: release.written.toList ↔
      number = release.major ∧ back <+: Nat.toDigits 10 release.minor ++ release.tail := by
  rw [Release.toList_written,
    append_cons_prefix_iff (point_not_mem_toDigits _) (point_not_mem_toDigits _), toDigits_inj]

/-- A second number and a point follow exactly where a third number stands behind it. -/
theorem number_prefix_minor_iff {release : Release} {number : Nat} :
    Nat.toDigits 10 number ++ ['.'] <+: Nat.toDigits 10 release.minor ++ release.tail ↔
      number = release.minor ∧ release.patch ≠ none := by
  obtain ⟨major, minor, patch⟩ := release
  cases patch with
  | none =>
      refine iff_of_false (fun leads => ?_) (by simp)
      rw [Release.tail, Option.elim_none, List.append_nil] at leads
      exact point_not_mem_toDigits minor (leads.subset (by simp))
  | some patch =>
      rw [Release.tail, Option.elim_some,
        append_cons_prefix_iff (point_not_mem_toDigits _) (point_not_mem_toDigits _), toDigits_inj]
      simp

theorem leads_three_iff {release : Release} :
    "3.".toList.isPrefixOf release.written.toList = true ↔ release.major = 3 := by
  have spelled : Nat.toDigits 10 3 ++ ['.'] <+: release.written.toList ↔ _ :=
    number_prefix_written_iff
  rw [List.isPrefixOf_iff_prefix, eq_comm]
  exact spelled.trans (and_iff_left List.nil_prefix)

theorem isKnownSeries_written_iff {release : Release} :
    isKnownSeries release.written = true ↔
      release.major = 3 ∧ release.minor ≤ 1 ∧ release.patch ≠ none := by
  have series (minor : Nat) (lead : String)
      (spelled : lead.toList = Nat.toDigits 10 3 ++ '.' :: (Nat.toDigits 10 minor ++ ['.'])) :
      lead.toList.isPrefixOf release.written.toList = true ↔
        release.major = 3 ∧ release.minor = minor ∧ release.patch ≠ none := by
    rw [List.isPrefixOf_iff_prefix, spelled, number_prefix_written_iff, number_prefix_minor_iff,
      eq_comm, eq_comm (a := minor)]
  change ("3.0.".toList.isPrefixOf release.written.toList ||
    "3.1.".toList.isPrefixOf release.written.toList) = true ↔ _
  rw [Bool.or_eq_true, series 0 "3.0." rfl, series 1 "3.1." rfl]
  have small : release.minor ≤ 1 ↔ release.minor = 0 ∨ release.minor = 1 := by omega
  rw [small]
  grind

section Accepted

variable {entries : List (Value × Value)}

theorem acceptVersion_of_error {failure : Failure}
    (refused : declaredVersion entries = .error failure) :
    acceptVersion (.map entries) = ⟨[], .error failure⟩ := by
  rw [acceptVersion, Value.entries?, Option.getD_some, refused]
  rfl

theorem acceptVersion_of_ok {version : String} (declared : declaredVersion entries = .ok version) :
    acceptVersion (.map entries) =
      ⟨if isKnownSeries version then [] else [.newerFormat version], .ok version⟩ := by
  rw [acceptVersion, Value.entries?, Option.getD_some, declared]
  change (⟨[], .ok version⟩ : Logged String) >>= _ = _
  rw [Logged.bind_succeed]
  cases isKnownSeries version <;> rfl

/-- A release that a document declares is accepted or refused by its first number. -/
theorem declaredVersion_written {declared : Value} {release : Release}
    (modern : Value.field? entries "swagger" = none)
    (declares : Value.field? entries "openapi" = some declared)
    (shown : declared.shown = .ok release.written) :
    declaredVersion entries =
      if release.major = 3 then .ok release.written
      else .error (.document (.unsupportedVersion declared)) := by
  have filled : declared ≠ .null := by
    rintro rfl
    have spelled : "None".toList = release.written.toList :=
      congrArg String.toList (Except.ok.inj shown)
    rw [Release.toList_written] at spelled
    have point : '.' ∈ "None".toList := spelled ▸ by simp
    exact absurd point (by decide)
  unfold declaredVersion
  rw [modern, declares, Option.getD_some]
  dsimp only
  split
  · contradiction
  · rw [shown]
    change (if "3.".toList.isPrefixOf release.written.toList = true then _ else _) = _
    simp only [leads_three_iff]
    rfl

/-- A document that declares a release is accepted exactly where the first number is three, and then
with a notice exactly where the second is greater than one or there is no third. -/
theorem acceptVersion_of_declared {declared : Value} {release : Release}
    (modern : Value.field? entries "swagger" = none)
    (declares : Value.field? entries "openapi" = some declared)
    (shown : declared.shown = .ok release.written) :
    acceptVersion (.map entries) =
      if release.major = 3 then
        ⟨if 1 < release.minor ∨ release.patch = none then [.newerFormat release.written] else [],
          .ok release.written⟩
      else ⟨[], .error (.document (.unsupportedVersion declared))⟩ := by
  have read := declaredVersion_written modern declares shown
  split at read
  · next third =>
    have unknown : isKnownSeries release.written = false ↔
      1 < release.minor ∨ release.patch = none := by
      rw [← Bool.not_eq_true, isKnownSeries_written_iff]
      grind
    rw [acceptVersion_of_ok read, if_pos third]
    simp only [← unknown]
    cases isKnownSeries release.written <;> rfl
  · next other => rw [acceptVersion_of_error read, if_neg other]

end Accepted

/-- A release of the third version with a second number of several digits is newer than those that
are known. -/
theorem acceptVersion_of_declared_tenth :
    acceptVersion (.map [(.str "openapi", .str "3.10.2")]) =
      ⟨[.newerFormat "3.10.2"], .ok "3.10.2"⟩ :=
  have shown : Value.shown (.str "3.10.2") = .ok (Release.written ⟨3, 10, some 2⟩) := rfl
  acceptVersion_of_declared rfl rfl shown

/-- A known release without a third number is noted as if it were newer. -/
theorem short_release_noted :
    Release.written ⟨3, 1, none⟩ = "3.1" ∧
      acceptVersion (.map [(.str "openapi", .str "3.1")]) = ⟨[.newerFormat "3.1"], .ok "3.1"⟩ :=
  ⟨rfl, rfl⟩

end ApiCompiler.Document
