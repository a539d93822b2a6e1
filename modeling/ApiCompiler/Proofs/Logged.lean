import ApiCompiler.Logged
import ApiCompiler.Proofs.Outcome
import Mathlib.Data.List.Forall2

/-!
# Outcomes of work on records

When a record fits and when work with notices succeeds. Work on the items of a list succeeds exactly
where the work on each item does.
-/

namespace ApiCompiler

variable {α β : Type}

namespace Checked

theorem map_eq_fits {change : α → β} {checked : Checked α} {value : β} :
    change <$> checked = .fits value ↔ ∃ given, checked = .fits given ∧ change given = value := by
  cases checked with
  | fits given => simp [Functor.map, Checked.map]
  | flawed complaints => simp [Functor.map, Checked.map]

theorem seq_eq_fits {change : Checked (α → β)} {checked : Checked α} {value : β} :
    change <*> checked = .fits value ↔
      ∃ made given, change = .fits made ∧ checked = .fits given ∧ made given = value := by
  cases change with
  | fits made => cases checked <;> simp [Seq.seq, Checked.apply]
  | flawed complaints => cases checked <;> simp [Seq.seq, Checked.apply]

theorem below_eq_fits {name : String} {checked : Checked α} {value : α} :
    checked.below name = .fits value ↔ checked = .fits value := by
  cases checked <;> simp [Checked.below]

theorem orFail_eq_ok {part : Part} {checked : Checked α} {value : α} :
    checked.orFail part = .ok value ↔ checked = .fits value := by
  cases checked <;> simp [Checked.orFail]

/-- A check finds nothing to complain about. -/
def Fits (checked : Checked α) : Prop :=
  ∃ value, checked = .fits value

@[simp] theorem fits_fits (value : α) : Fits (.fits value) :=
  ⟨value, rfl⟩

@[simp] theorem not_fits_flawed (complaints : List Complaint) :
    ¬Fits (.flawed complaints : Checked α) :=
  fun ⟨_, same⟩ => nomatch same

@[simp] theorem fits_map_iff {change : α → β} {checked : Checked α} :
    Fits (change <$> checked) ↔ Fits checked := by
  simp [Fits, map_eq_fits]

@[simp] theorem fits_seq_iff {change : Checked (α → β)} {checked : Checked α} :
    Fits (change <*> checked) ↔ Fits change ∧ Fits checked := by
  simp only [Fits, seq_eq_fits]
  grind

@[simp] theorem fits_below_iff {name : String} {checked : Checked α} :
    Fits (checked.below name) ↔ Fits checked := by
  simp [Fits, below_eq_fits]

theorem exists_orFail_iff {part : Part} {checked : Checked α} :
    (∃ value, checked.orFail part = .ok value) ↔ Fits checked := by
  simp [Fits, orFail_eq_ok]

end Checked

namespace Shape

variable {absent value : α} {name : String} {read : Value → Checked α}
  {entries : List (Value × Value)}

theorem fieldOr_eq_fits :
    fieldOr absent name read entries = .fits value ↔
      Value.field? entries name = none ∧ value = absent ∨
        ∃ held, Value.field? entries name = some held ∧ read held = .fits value := by
  unfold fieldOr
  cases Value.field? entries name with
  | none => simp [eq_comm]
  | some held => simp [Checked.below_eq_fits]

theorem fits_fieldOr_iff :
    (fieldOr absent name read entries).Fits ↔
      ∀ held, Value.field? entries name = some held → (read held).Fits := by
  unfold fieldOr
  cases Value.field? entries name <;> simp

end Shape

namespace Logged

@[ext] theorem ext {first second : Logged α} (notices : first.notices = second.notices)
    (result : first.result = second.result) : first = second := by
  cases first
  cases second
  cases notices
  cases result
  rfl

theorem bind_succeed (notices : List Notice) (value : α) (next : α → Logged β) :
    (⟨notices, .ok value⟩ : Logged α) >>= next =
      ⟨notices ++ (next value).notices, (next value).result⟩ := rfl

theorem bind_pure_self (work : Logged α) : work >>= pure = work := by
  obtain ⟨notices, failure | value⟩ := work
  · rfl
  · rw [bind_succeed]
    exact ext (List.append_nil notices) rfl

theorem bind_bind {γ : Type} (work : Logged α) (next : α → Logged β) (last : β → Logged γ) :
    work >>= next >>= last = work >>= fun value => next value >>= last := by
  obtain ⟨notices, failure | value⟩ := work
  · rfl
  · rw [bind_succeed, bind_succeed]
    obtain ⟨later, failure | middle⟩ := next value
    · rfl
    · rw [bind_succeed, bind_succeed]
      exact ext (List.append_assoc ..) rfl

instance : LawfulMonad Logged :=
  LawfulMonad.mk' Logged bind_pure_self (fun _ _ => rfl) bind_bind

@[simp] theorem result_liftM (result : Except Failure α) :
    (liftM result : Logged α).result = result := rfl

theorem result_mapM {work : α → Logged β} {items : List α} :
    (items.mapM work).result = items.mapM fun item => (work item).result := by
  induction items with
  | nil => rfl
  | cons item items induction =>
      simp only [List.mapM_cons, result_bind, induction, result_pure]
      rfl

/-- Work on the items of a list succeeds exactly where the work on each item does. -/
theorem mapM_eq_ok_iff {work : α → Logged β} {items : List α} {values : List β} :
    (items.mapM work).result = .ok values ↔
      List.Forall₂ (fun item value => (work item).result = .ok value) items values := by
  rw [result_mapM, Outcome.mapM_eq_ok_iff_forall₂]

end Logged

end ApiCompiler
