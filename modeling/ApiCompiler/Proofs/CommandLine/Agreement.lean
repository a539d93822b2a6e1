import ApiCompiler.Proofs.CommandLine.Generate
import ApiCompiler.Proofs.Module.Behaviour

/-!
# Modules of one text

Descriptions whose modules have one text plan functions that make the same requests. So a check
calls no file up to date whose functions make others, although it reads every line end as a line
feed.
-/

namespace ApiCompiler.CommandLine

open Outcome ApiCompiler.Module Plan Call Files

/-- Functions that do the same, one by one, and answer every call alike. -/
structure Agree (plans others : List Plan) : Prop where
  behaviour : plans.map behaviourOf = others.map behaviourOf
  calls : ∀ operationId arguments, call plans operationId arguments =
    call others operationId arguments

theorem agree_of_behaviour {plans others : List Plan}
    (same : plans.map behaviourOf = others.map behaviourOf) : Agree plans others :=
  ⟨same, call_eq_of_behaviour same⟩

/-- A check that succeeds has read the module. -/
theorem eq_of_checkModule_eq_success {session : Session} {source target : String}
    {description : Description} {text held : String} {machine last : Machine}
    (read : machine.files.read machine.workingDirectory (.ofText target) = .ok held)
    (checked : (checkModule session source target description text).run.run machine =
      (.ok .success, last)) : held = text := by
  obtain ⟨_, judged, -⟩ := judge_run session source target description text (some held) machine
  rw [checkModule_eq, Action.run_bind_of_ok (currentOf_run (.text read)), judged] at checked
  by_contra differs
  rw [if_neg fun same => differs (Option.some.inj same)] at checked
  cases checked

/-- Two descriptions with one module text plan functions that agree. So do a description whose check
succeeds and one whose module stands in the checked file. -/
theorem agree_of_assemble {description other : Description} {versions others : Versions}
    {text content : String} (assembled : (assemble description versions).result = .ok text)
    (also : (assemble other others).result = .ok content) :
    ∃ plans rivals, (ofDescription description versions).result = .ok plans ∧
      (ofDescription other others).result = .ok rivals ∧
      (text = content → Agree plans rivals) ∧
      ∀ (session : Session) (source target : String) (machine last : Machine),
        machine.files.read machine.workingDirectory (.ofText target) =
            .ok (Content.readText content) →
          (checkModule session source target description text).run.run machine =
              (.ok .success, last) →
            Agree plans rivals := by
  obtain ⟨plans, planned, server, serves, rfl⟩ := exists_plans_of_assemble assembled
  obtain ⟨rivals, rivalled, host, hosts, rfl⟩ := exists_plans_of_assemble also
  refine ⟨plans, rivals, planned, rivalled, fun same => agree_of_behaviour ?_,
    fun session source target machine last read checked => agree_of_behaviour ?_⟩
  · exact map_behaviourOf_eq_of_render planned rivalled serves hosts (.inl same)
  · have same := eq_of_checkModule_eq_success read checked
    exact map_behaviourOf_eq_of_render planned rivalled serves hosts (.inr same.symm)

/-- The same API in a document of another format, with words that leave no trace in its module. -/
def rewordedDescription : Description :=
  { plainDescription with
    servers := shopServers.map fun server => { server with description := some "\\" }
    formatVersion := "3.1.0" }

theorem assemble_rewordedDescription :
    assemble rewordedDescription ⟨some "", some "2"⟩ = assemble plainDescription shopVersions := rfl

theorem agree_of_assemble_rewordedDescription :
    rewordedDescription ≠ plainDescription ∧
      ∃ plans rivals, (ofDescription rewordedDescription ⟨some "", some "2"⟩).result = .ok plans ∧
        (ofDescription plainDescription shopVersions).result = .ok rivals ∧ Agree plans rivals := by
  obtain ⟨text, assembled⟩ : ∃ text, (assemble plainDescription shopVersions).result = .ok text :=
    exists_eq_ok_of_isSome (by decide +kernel)
  have also : (assemble rewordedDescription ⟨some "", some "2"⟩).result = .ok text := by
    rw [assemble_rewordedDescription, assembled]
  obtain ⟨plans, rivals, planned, rivalled, agree, -⟩ := agree_of_assemble also assembled
  exact ⟨by decide +kernel, plans, rivals, planned, rivalled, agree rfl⟩

end ApiCompiler.CommandLine
