import ApiCompiler.Proofs.Document.Needed
import Mathlib.Data.Finset.Card

/-!
# Inlining as a recursion

Inlining may also be told as a recursion that goes into the parts of nodes and into the targets of
references, and that carries the references it is inside of. A target may be any node of the
document, also one around the reference, so a visit is not smaller than the one that makes it. But
each reference that is followed is one less to follow, and so the recursion ends from every node: it
has one solution, which inlining is.
-/

namespace ApiCompiler.Document

open Outcome

/-- A node that the recursion comes to, and the references that it is inside of there. -/
structure Visit where
  node : Value
  chain : Finset String

/-- One visit makes another: of a part of its node, or of the target of its node, if that is a
reference that it is not inside of. -/
inductive Makes (root : Value) : Visit → Visit → Prop where
  | part {node part : Value} {chain : Finset String} (plain : referenceOf? node = none)
      (held : Holds node part) : Makes root ⟨node, chain⟩ ⟨part, chain⟩
  | target {node next : Value} {chain : Finset String} {reference : String}
      (refers : referenceOf? node = some reference) (fresh : reference ∉ chain)
      (found : target root reference = .ok next) :
      Makes root ⟨node, chain⟩ ⟨next, insert reference chain⟩

/-- What a visit gives, if the visits that it makes give what a function says. -/
def outcomeOf (root : Value) (given : Visit → Except Fault Value) (visit : Visit) :
    Except Fault Value :=
  match visit.node with
  | .list items => .list <$> items.mapM fun item => given ⟨item, visit.chain⟩
  | .map entries =>
    match reference? entries with
    | some reference =>
      if reference ∈ visit.chain then .ok (.map entries)
      else do given ⟨← target root reference, insert reference visit.chain⟩
    | none => .map <$> entries.mapM fun entry => (entry.1, ·) <$> given ⟨entry.2, visit.chain⟩
  | node => .ok node

/-- What a visit gives depends on the visits that it makes, and on no others. -/
theorem outcomeOf_congr {root : Value} {given other : Visit → Except Fault Value} {visit : Visit}
    (same : ∀ next, Makes root visit next → given next = other next) :
    outcomeOf root given visit = outcomeOf root other visit := by
  obtain ⟨node, chain⟩ := visit
  cases node with
  | list items =>
      refine congrArg (Value.list <$> ·) (mapM_congr fun item member => ?_)
      exact same _ (.part rfl (.item member))
  | map entries =>
      simp only [outcomeOf]
      cases refers : reference? entries with
      | none =>
          refine congrArg (Value.map <$> ·) (mapM_congr fun entry member => ?_)
          rw [same _ (.part refers (.value member))]
      | some reference =>
          simp only
          split
          · rfl
          · rename_i fresh
            cases found : target root reference with
            | error fault => rfl
            | ok next => exact same _ (.target refers fresh found)
  | _ => rfl

/-- The references that may still be followed from a visit. -/
def unfollowed (root : Value) (visit : Visit) : Finset String :=
  (references root ++ references visit.node).toFinset \ visit.chain

theorem mem_unfollowed_iff {root : Value} {visit : Visit} {reference : String} :
    reference ∈ unfollowed root visit ↔
      (reference ∈ references root ∨ reference ∈ references visit.node) ∧
        reference ∉ visit.chain := by
  simp [unfollowed]

/-- With a visit of a part there is no more to follow, and the node is smaller; with a visit of a
target there is less to follow. -/
theorem smaller_of_makes {root : Value} {visit next : Visit} (makes : Makes root visit next) :
    Prod.Lex (· < ·) (· < ·) ((unfollowed root next).card, sizeOf next.node)
      ((unfollowed root visit).card, sizeOf visit.node) := by
  cases makes with
  | part plain held =>
      refine Prod.Lex.right' _ (Finset.card_le_card fun reference member => ?_)
        (sizeOf_lt_of_holds held)
      rw [mem_unfollowed_iff] at member ⊢
      exact ⟨member.1.imp_right fun inside => references_subset_of_holds held inside, member.2⟩
  | @target node next chain reference refers fresh found =>
      refine .left _ _ (Finset.card_lt_card (Finset.ssubset_iff_of_subset ?_
        |>.mpr ⟨reference, ?_, ?_⟩))
      · intro other member
        rw [mem_unfollowed_iff, Finset.mem_insert, not_or] at member
        rw [mem_unfollowed_iff]
        exact ⟨.inl (member.1.elim id fun inside =>
          references_subset_of_target found inside), member.2.2⟩
      · exact mem_unfollowed_iff.mpr ⟨.inr (mem_references_of_referenceOf? refers), fresh⟩
      · rw [mem_unfollowed_iff]
        exact fun member => member.2 (Finset.mem_insert_self _ _)

theorem wellFounded_makes (root : Value) : WellFounded fun next visit => Makes root visit next :=
  Subrelation.wf smaller_of_makes (InvImage.wf _ (Prod.lex Nat.lt_wfRel Nat.lt_wfRel).wf)

/-- A recursion that ends has a solution. -/
theorem exists_solution (root : Value) :
    ∃ given : Visit → Except Fault Value, ∀ visit, given visit = outcomeOf root given visit := by
  classical
  let made (visit : Visit) (within : (next : Visit) → Makes root visit next → Except Fault Value) :
      Except Fault Value :=
    outcomeOf root (fun next => if makes : Makes root visit next then within next makes
      else .ok .null)
      visit
  refine ⟨(wellFounded_makes root).fix made, fun visit => ?_⟩
  rw [WellFounded.fix_eq]
  exact outcomeOf_congr fun next makes => dif_pos makes

/-- Each solution gives for a visit what inlining makes of its node, while it may follow the
references that the visit is not inside of. -/
theorem inlineWithin_eq_of_solves {root : Value} {given : Visit → Except Fault Value}
    (solves : ∀ visit, given visit = outcomeOf root given visit) (visit : Visit)
    {followed : List String}
    (free : ∀ reference, reference ∈ references root ∨ reference ∈ references visit.node →
      (reference ∈ followed ↔ reference ∉ visit.chain)) :
    inlineWithin root followed visit.node = given visit := by
  induction visit using (wellFounded_makes root).induction generalizing followed with
  | h visit inner =>
      obtain ⟨node, chain⟩ := visit
      have parts {part : Value} (plain : referenceOf? node = none) (held : Holds node part) :
          inlineWithin root followed part = given ⟨part, chain⟩ :=
        inner _ (.part plain held) fun reference member =>
          free reference (member.imp_right fun inside => references_subset_of_holds held inside)
      rw [solves]
      cases node with
      | list items =>
          rw [inlineWithin_list]
          exact congrArg (Value.list <$> ·) (mapM_congr fun item member => parts rfl (.item member))
      | map entries =>
          cases refers : reference? entries with
          | none =>
              rw [inlineWithin_map_of_plain refers, outcomeOf]
              simp only [refers]
              refine congrArg (Value.map <$> ·) (mapM_congr fun entry member => ?_)
              rw [parts refers (.value member)]
          | some reference =>
              have open_ := free reference (.inr (mem_references_of_reference? refers))
              rw [inlineWithin_map_of_refers refers, substitute, outcomeOf]
              simp only [refers]
              by_cases closed : reference ∈ chain
              · rw [if_neg (mt open_.mp (not_not_intro closed)), if_pos closed]
              · rw [if_pos (open_.mpr closed), if_neg closed]
                cases found : target root reference with
                | error fault => rfl
                | ok next =>
                    refine inner ⟨next, insert reference chain⟩ (.target refers closed found) ?_
                    intro other member
                    have known : other ∈ references root :=
                      member.elim id fun inside => references_subset_of_target found inside
                    rw [mem_without_iff, free other (.inl known),
                      Finset.mem_insert, not_or, and_comm]
      | _ => rw [inlineWithin_eq]; rfl

/-- The recursion ends from every visit, whatever the references of the document are. What a visit
gives depends on the visits that it makes, so the recursion has one solution; and inlining gives
what that gives for a visit of the whole document. -/
theorem recursion_ends (document : Value) :
    (WellFounded fun next visit => Makes document visit next) ∧
      (∀ (given other : Visit → Except Fault Value) (visit : Visit),
        (∀ next, Makes document visit next → given next = other next) →
          outcomeOf document given visit = outcomeOf document other visit) ∧
      ∃ given : Visit → Except Fault Value,
        (∀ visit, given visit = outcomeOf document given visit) ∧
          (∀ other : Visit → Except Fault Value,
            (∀ visit, other visit = outcomeOf document other visit) → other = given) ∧
          inline document = (given ⟨document, ∅⟩).mapError .document := by
  obtain ⟨given, solves⟩ := exists_solution document
  refine ⟨wellFounded_makes document, fun _ _ _ => outcomeOf_congr, given, solves, ?_, ?_⟩
  · intro other solvesToo
    funext visit
    induction visit using (wellFounded_makes document).induction with
    | h visit inner => rw [solvesToo, solves, outcomeOf_congr inner]
  · rw [inline, inlineWithin_eq_of_solves solves ⟨document, ∅⟩ (by simp)]

end ApiCompiler.Document
