import ApiCompiler.Machine
import Mathlib.Tactic.Common

/-!
# Runs of actions that may fail

An action that may fail ends with a result exactly where all its steps do, one after another.
-/

namespace ApiCompiler.Action

variable {ε α β : Type} {machine after : Machine}

theorem bind_done (action : Action α) : action.bind .done = action := by
  induction action with
  | done value => rfl
  | ask query next induction =>
      rw [Action.bind]
      exact congrArg (Action.ask query) (funext induction)

theorem bind_bind {γ : Type} (action : Action α) (next : α → Action β) (last : β → Action γ) :
    (action.bind next).bind last = action.bind fun value => (next value).bind last := by
  induction action with
  | done value => rfl
  | ask query rest induction =>
      rw [Action.bind, Action.bind, Action.bind]
      exact congrArg (Action.ask query) (funext induction)

instance : LawfulMonad Action :=
  LawfulMonad.mk' Action bind_done (fun _ _ => rfl) bind_bind

theorem run_bind_eq_ok_iff {first : ExceptT ε Action α} {next : α → ExceptT ε Action β}
    {value : β} :
    (first >>= next).run.run machine = (.ok value, after) ↔
      ∃ given middle, first.run.run machine = (.ok given, middle) ∧
        (next given).run.run middle = (.ok value, after) := by
  rw [ExceptT.run_bind, Action.run_bind]
  cases ran : first.run.run machine with
  | mk outcome middle =>
      cases outcome with
      | error failure => simp
      | ok given => simp

/-- Steps end at the first that fails. -/
theorem run_bind_cases {first : ExceptT ε Action α} {next : α → ExceptT ε Action β}
    {outcome : Except ε β} (ran : (first >>= next).run.run machine = (outcome, after)) :
    (∃ failure, first.run.run machine = (.error failure, after) ∧ outcome = .error failure) ∨
      ∃ given middle, first.run.run machine = (.ok given, middle) ∧
        (next given).run.run middle = (outcome, after) := by
  rw [ExceptT.run_bind, Action.run_bind] at ran
  cases done : first.run.run machine with
  | mk result middle =>
      rw [done] at ran
      cases result with
      | ok given => exact .inr ⟨given, middle, rfl, ran⟩
      | error failure =>
          obtain ⟨rfl, rfl⟩ := Prod.mk.inj ran
          exact .inl ⟨failure, rfl, rfl⟩

theorem run_bind_of_ok {first : ExceptT ε Action α} {next : α → ExceptT ε Action β} {given : α}
    {middle : Machine} (ran : first.run.run machine = (.ok given, middle)) :
    (first >>= next).run.run machine = (next given).run.run middle := by
  rw [ExceptT.run_bind, Action.run_bind, ran]

theorem run_bind_of_error {first : ExceptT ε Action α} {next : α → ExceptT ε Action β} {failure : ε}
    {middle : Machine} (ran : first.run.run machine = (.error failure, middle)) :
    (first >>= next).run.run machine = (.error failure, middle) := by
  rw [ExceptT.run_bind, Action.run_bind, ran]
  rfl

theorem run_pure_eq_ok_iff {given value : α} :
    (pure given : ExceptT ε Action α).run.run machine = (.ok value, after) ↔
      value = given ∧ after = machine := by
  rw [ExceptT.run_pure, Action.run_pure]
  simp [eq_comm]

end ApiCompiler.Action
