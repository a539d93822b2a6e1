import ApiCompiler.Proofs.CommandLine.Spared

/-!
# Modules in place or nothing changed

How a run for a module ends on a machine without mishaps. Either the whole module is where it goes
and no other file has changed, or all files are as they were, apart from the record of a failure
that was not foreseen; and each kind of end has its number.
-/

namespace ApiCompiler.CommandLine

open Files (Path Place Replaced)
open Outcome Work

variable {manner : Manner} {source : String} {given : Generation} {check : Bool}
  {machine middle after : Machine}

/-- A run assembles a module for a target: it opens its session and reads its settings, which name
the target, and reads a document whose module is spelled as a text, or has no spelling. Nothing but
directories is new then. -/
def Assembles (manner : Manner) (source : String) (given : Generation) (machine : Machine)
    (target : String) (draft : Except Files.Fault String) (made : Machine) : Prop :=
  ∃ session generation ready reading document description module,
    (opened manner given).run.run machine = (.ok (session, generation), ready) ∧
      targetOf generation = target ∧
      (moduleOf session source generation).run.run ready = (.ok (description, draft), made) ∧
      Machine.Spared ready reading ∧
      ((Document.load source).run reading).1.result = .ok document ∧
      (Description.ofDocument document).result = .ok description ∧
      (Module.assemble description ⟨generation.sdkVersion, generation.appVersion⟩).result =
        .ok module ∧
      draft = document.spelled module

theorem Assembles.spared {target : String} {draft : Except Files.Fault String}
    (assembles : Assembles manner source given machine target draft after) :
    Machine.Spared machine after := by
  obtain ⟨session, generation, ready, _, _, _, _, opening, -, making, -⟩ := assembles
  exact ((spares_opened manner given).spared opening).trans
    ((spares_moduleOf session source generation).spared making)

/-- A module is that of the description of a document, which is read where nothing but directories
is new. -/
theorem exists_document_of_making {session : Session} {generation : Generation}
    {description : Description} {draft : Except Files.Fault String}
    (making : (moduleOf session source generation).run.run middle =
      (.ok (description, draft), after)) :
    ∃ reading document module, Machine.Spared middle reading ∧
      ((Document.load source).run reading).1.result = .ok document ∧
      (Description.ofDocument document).result = .ok description ∧
      (Module.assemble description ⟨generation.sdkVersion, generation.appVersion⟩).result =
        .ok module ∧
      draft = document.spelled module := by
  obtain ⟨_, told, telling, ran⟩ := Action.run_bind_eq_ok_iff.mp making
  obtain ⟨loaded, read, loading, ran⟩ := Action.run_bind_eq_ok_iff.mp ran
  obtain ⟨document, reported, reporting, ran⟩ := Action.run_bind_eq_ok_iff.mp ran
  obtain ⟨_, described, describing, ran⟩ := Action.run_bind_eq_ok_iff.mp ran
  obtain ⟨module, assembled, assembling, ended⟩ := Action.run_bind_eq_ok_iff.mp ran
  obtain ⟨same, -⟩ := Action.run_pure_eq_ok_iff.mp ended
  obtain ⟨rfl, rfl⟩ := Prod.mk.inj same
  rw [run_lift, Prod.mk.injEq, Except.ok.injEq] at loading
  refine ⟨told, document, module, (session.spares_remark _ _).spared telling, ?_,
    result_of_report describing, result_of_report assembling, rfl⟩
  rw [loading.1]
  exact result_of_report reporting

theorem eq_of_guardTarget {target : String}
    (ran : (guardTarget check target).run.run machine = (.ok (), after)) : after = machine := by
  unfold guardTarget at ran
  split at ran
  · obtain ⟨same, -⟩ := Prod.mk.inj ran
    contradiction
  · exact (Action.run_pure_eq_ok_iff.mp ran).2

/-- A document that the system does not hand out is a fault of the document. -/
example : exitCode ((run returnWords).run.run { returnMachine with
    files := ⟨[(["home"], .directory), (["home", "s.json"], .file (.withheld []))]⟩ }).1 = 7 := by
  decide +kernel

end ApiCompiler.CommandLine
