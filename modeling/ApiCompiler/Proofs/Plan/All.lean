import ApiCompiler.Plan.All
import ApiCompiler.Proofs.Outcome
import Mathlib.Data.List.Forall2
import Mathlib.Data.List.Nodup

/-!
# Plans of descriptions

A description has plans exactly where each of its operations has one and no two of them share an
identifier or a function name. They are the plans of its operations, in order.
-/

namespace ApiCompiler.Plan

open Outcome

theorem distinctFrom_eq_ok_iff {earlier : List Plan} {plan : Plan} :
    distinctFrom earlier plan = .ok () ↔
      ∀ other ∈ earlier, other.operationId ≠ plan.operationId ∧
        other.functionName ≠ plan.functionName := by
  unfold distinctFrom
  split
  · rename_i shared
    obtain ⟨other, member, same⟩ := List.any_eq_true.mp shared
    simp only [reduceCtorEq, false_iff, not_forall]
    exact ⟨other, member, fun apart => apart.1 (beq_iff_eq.mp same)⟩
  · rename_i unshared
    have identified : ∀ other ∈ earlier, other.operationId ≠ plan.operationId :=
      fun other member same => unshared (List.any_eq_true.mpr ⟨other, member, beq_iff_eq.mpr same⟩)
    split
    · rename_i other found
      simp only [reduceCtorEq, false_iff, not_forall]
      exact ⟨other, List.mem_of_find?_eq_some found,
        fun apart => apart.2 (by simpa using List.find?_some found)⟩
    · rename_i absent
      simp only [true_iff]
      intro other member
      exact ⟨identified other member, by simpa using List.find?_eq_none.mp absent other member⟩

/-- An operation joins the plans before it with a plan that shares no identifier or name with
them. -/
theorem addPlan_eq_ok_iff {description : Description} {versions : Versions}
    {earlier plans : List Plan}
    {operation : Operation} :
    (addPlan description versions earlier operation).result = .ok plans ↔
      ∃ plan, ofOperation operation description.info description.servers versions = .ok plan ∧
        (∀ other ∈ earlier, other.operationId ≠ plan.operationId ∧
          other.functionName ≠ plan.functionName) ∧ plans = earlier ++ [plan] := by
  simp only [addPlan, Logged.result_bind, bind_eq_ok]
  constructor
  · rintro ⟨plan, made, _, -, ⟨⟩, distinct, joined⟩
    exact ⟨plan, mapError_eq_ok.mp made, distinctFrom_eq_ok_iff.mp (mapError_eq_ok.mp distinct),
      (Except.ok.inj joined).symm⟩
  · rintro ⟨plan, made, distinct, rfl⟩
    exact ⟨plan, mapError_eq_ok.mpr made, (), rfl, (),
      mapError_eq_ok.mpr (distinctFrom_eq_ok_iff.mpr distinct), rfl⟩

/-- Two plans that may stand in one module. -/
def Distinct (first second : Plan) : Prop :=
  first.operationId ≠ second.operationId ∧ first.functionName ≠ second.functionName

/-- One after another, the plans of operations join those before them. -/
theorem foldlM_addPlan_eq_ok_iff {description : Description} {versions : Versions}
    {operations : List Operation} {earlier plans : List Plan} :
    (operations.foldlM (addPlan description versions) earlier).result = .ok plans ↔
      ∃ later, plans = earlier ++ later ∧
        List.Forall₂ (fun operation plan =>
          ofOperation operation description.info description.servers versions = .ok plan)
          operations later ∧
        later.Pairwise Distinct ∧ ∀ other ∈ earlier, ∀ plan ∈ later, Distinct other plan := by
  induction operations generalizing earlier with
  | nil =>
      constructor
      · intro planned
        obtain rfl := Except.ok.inj planned
        exact ⟨[], by simp⟩
      · rintro ⟨_, rfl, ⟨⟩, -, -⟩
        rw [List.append_nil]
        rfl
  | cons operation operations induction =>
      rw [List.foldlM_cons, Logged.result_bind, bind_eq_ok]
      simp only [addPlan_eq_ok_iff, induction]
      constructor
      · rintro ⟨_, ⟨plan, made, apart, rfl⟩, later, rfl, each, distinct, between⟩
        simp only [List.forall_mem_append, List.forall_mem_singleton] at between
        refine ⟨plan :: later, by simp, .cons made each, .cons between.2 distinct, ?_⟩
        intro other member
        exact List.forall_mem_cons.mpr ⟨apart other member, between.1 other member⟩
      · rintro ⟨_, rfl, each, distinct, between⟩
        cases each with | @cons _ plan _ later made each => ?_
        obtain ⟨first, rest⟩ := List.pairwise_cons.mp distinct
        refine ⟨_,
          ⟨plan, made, fun other member => between other member plan List.mem_cons_self, rfl⟩,
          later, by simp, each, rest, ?_⟩
        simp only [List.forall_mem_append, List.forall_mem_singleton]
        exact ⟨fun other member new held =>
          between other member new (List.mem_cons_of_mem _ held), first⟩

/-- A description has plans exactly where each of its operations has one and all of them are
distinct. -/
theorem ofDescription_eq_ok_iff {description : Description} {versions : Versions}
    {plans : List Plan} :
    (ofDescription description versions).result = .ok plans ↔
      List.Forall₂ (fun operation plan =>
        ofOperation operation description.info description.servers versions = .ok plan)
        description.operations plans ∧ plans.Pairwise Distinct := by
  rw [ofDescription, foldlM_addPlan_eq_ok_iff]
  constructor
  · rintro ⟨_, rfl, each, distinct, -⟩
    exact ⟨each, distinct⟩
  · rintro ⟨each, distinct⟩
    exact ⟨plans, rfl, each, distinct, by simp⟩

/-- The plans of a description are those of its operations. -/
theorem forall₂_of_ofDescription {description : Description} {versions : Versions}
    {plans : List Plan} (planned : (ofDescription description versions).result = .ok plans) :
    List.Forall₂ (fun operation plan =>
      ofOperation operation description.info description.servers versions = .ok plan)
      description.operations plans :=
  (ofDescription_eq_ok_iff.mp planned).1

theorem exists_operation_of_mem {description : Description} {versions : Versions}
    {plans : List Plan}
    (planned : (ofDescription description versions).result = .ok plans) :
    ∀ plan ∈ plans, ∃ operation,
      ofOperation operation description.info description.servers versions = .ok plan := by
  intro plan member
  obtain ⟨index, within, rfl⟩ := List.getElem_of_mem member
  have each := forall₂_of_ofDescription planned
  exact ⟨_, each.get (each.length_eq ▸ within) within⟩

end ApiCompiler.Plan
