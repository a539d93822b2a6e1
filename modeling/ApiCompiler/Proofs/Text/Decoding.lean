import ApiCompiler.Proofs.Text.Literal
import Mathlib.Data.List.Infix

/-!
# Texts that tell where they end

What is written for a value tells, whatever follows it, which value it was and where it ends. Rows
of such values keep this if their end is marked by something that starts no value, and quoted texts
have it: their characters are read back one by one up to the mark.
-/

namespace ApiCompiler.Text

variable {α β : Type}

/-- What is written for some values tells, whatever follows, a part of the value and where it
ends. -/
def Tells (valid : α → Prop) (write : α → List Char) (part : α → β) : Prop :=
  ∀ ⦃one other : α⦄ ⦃rest last : List Char⦄, valid one → valid other →
    write one ++ rest = write other ++ last → part one = part other ∧ rest = last

/-- Texts that start differently differ. -/
theorem append_ne_append {left right : List Char} (length : Nat) (fits : length ≤ left.length)
    (suffices_ : length ≤ right.length) (differ : left.take length ≠ right.take length)
    (rest last : List Char) : left ++ rest ≠ right ++ last := by
  intro same
  have starts := congrArg (List.take length) same
  rw [List.take_append_of_le_length fits, List.take_append_of_le_length suffices_] at starts
  exact differ starts

namespace Tells

theorem between {valid : α → Prop} {write : α → List Char} {part : α → β}
    (tells : Tells valid write part) (lead tail : List Char) :
    Tells valid (fun value => lead ++ (write value ++ tail)) part := by
  intro one other rest last first second same
  rw [List.append_assoc, List.append_assoc, List.append_assoc, List.append_assoc] at same
  obtain ⟨own, others⟩ := tells first second (List.append_cancel_left same)
  exact ⟨own, List.append_cancel_left others⟩

/-- A row of values tells its parts if its end starts like none of them. -/
theorem row {valid : α → Prop} {write : α → List Char} {part : α → β}
    (tells : Tells valid write part) {stop : List Char}
    (ends : ∀ value rest last, valid value → write value ++ rest ≠ stop ++ last)
    {left right : List α} {rest last : List Char} (validLeft : ∀ value ∈ left, valid value)
    (validRight : ∀ value ∈ right, valid value)
    (same : left.flatMap write ++ (stop ++ rest) = right.flatMap write ++ (stop ++ last)) :
    left.map part = right.map part ∧ rest = last := by
  induction left generalizing right with
  | nil =>
      cases right with
      | nil => exact ⟨rfl, List.append_cancel_left same⟩
      | cons other right =>
          rw [List.flatMap_cons, List.append_assoc] at same
          exact absurd same.symm (ends other _ _ (validRight other List.mem_cons_self))
  | cons one left induction =>
      have first := validLeft one List.mem_cons_self
      cases right with
      | nil =>
          rw [List.flatMap_cons, List.append_assoc] at same
          exact absurd same (ends one _ _ first)
      | cons other right =>
          rw [List.flatMap_cons, List.flatMap_cons, List.append_assoc, List.append_assoc] at same
          obtain ⟨own, others⟩ := tells first (validRight other List.mem_cons_self) same
          obtain ⟨later, rest_eq⟩ := induction
            (fun value member => validLeft value (List.mem_cons_of_mem _ member))
            (fun value member => validRight value (List.mem_cons_of_mem _ member)) others
          exact ⟨by rw [List.map_cons, List.map_cons, own, later], rest_eq⟩

/-- A row of values that all start alike, and otherwise than what follows the row. -/
theorem rowBetween {valid : α → Prop} {write : α → List Char} {part : α → β}
    (tells : Tells valid write part) {lead tail stop : List Char} (length : Nat)
    (fits : length ≤ lead.length) (suffices_ : length ≤ stop.length)
    (differ : lead.take length ≠ stop.take length) {left right : List α} {rest last : List Char}
    (validLeft : ∀ value ∈ left, valid value) (validRight : ∀ value ∈ right, valid value)
    (same : left.flatMap (fun value => lead ++ (write value ++ tail)) ++ (stop ++ rest) =
      right.flatMap (fun value => lead ++ (write value ++ tail)) ++ (stop ++ last)) :
    left.map part = right.map part ∧ rest = last := by
  refine (tells.between lead tail).row (fun value rest last _ => ?_) validLeft validRight same
  rw [List.append_assoc]
  exact append_ne_append length fits suffices_ differ _ _

end Tells

/-- A text of characters of a kind ends where a character of another kind follows. -/
theorem eq_of_append_cons {kind : Char → Bool} {stop : Char} (other : kind stop = false)
    {left right rest last : List Char} (pureLeft : ∀ character ∈ left, kind character = true)
    (pureRight : ∀ character ∈ right, kind character = true)
    (same : left ++ stop :: rest = right ++ stop :: last) : left = right ∧ rest = last := by
  have cut {text rest : List Char} (pure : ∀ character ∈ text, kind character = true) :
      (text ++ stop :: rest).takeWhile kind = text := by
    rw [List.takeWhile_append_of_pos pure, List.takeWhile_cons_of_neg (by simp [other]),
      List.append_nil]
  have first : left = right := by rw [← cut pureLeft, same, cut pureRight]
  subst first
  exact ⟨rfl, (List.cons.inj (List.append_cancel_left same)).2⟩

variable {mark : Char}

/-- No character is written by its mark alone. -/
theorem quoteCharacter_append_ne (marks : mark = '\'' ∨ mark = '"') (character : Char)
    (rest last : List Char) : quoteCharacter mark character ++ rest ≠ [mark] ++ last := by
  intro same
  have unmarked := (writes_quoteCharacter mark character).head?_ne marks rest
  exact unmarked (congrArg List.head? same)

theorem tells_quoteCharacter (marks : mark = '\'' ∨ mark = '"') :
    Tells (fun _ => True) (quoteCharacter mark) id := by
  intro one other rest last _ _ same
  have read := congrArg readCharacter same
  rw [(writes_quoteCharacter mark one).read marks,
    (writes_quoteCharacter mark other).read marks] at read
  exact Prod.mk.inj (Option.some.inj read)

/-- A quoted text tells where it ends. -/
theorem tells_quote : Tells (fun _ => True) quote id := by
  intro one other rest last _ _ same
  simp only [quote, List.cons_append, List.append_assoc, List.nil_append, List.cons.injEq] at same
  obtain ⟨marks, inner⟩ := same
  rw [← marks] at inner
  have kind := quoteMark_eq one
  change _ ++ ([quoteMark one] ++ rest) = _ ++ ([quoteMark one] ++ last) at inner
  obtain ⟨texts, rest_eq⟩ := (tells_quoteCharacter kind).row
    (fun character rest last _ => quoteCharacter_append_ne kind character rest last)
    (fun _ _ => trivial) (fun _ _ => trivial) inner
  rw [List.map_id, List.map_id] at texts
  exact ⟨texts, rest_eq⟩

theorem toList_quoted (text : String) : (quoted text).toList = quote text.toList :=
  String.toList_ofList

theorem tells_quoted : Tells (fun _ => True) (fun text => (quoted text).toList) id := by
  intro one other rest last _ _ same
  simp only [toList_quoted] at same
  obtain ⟨texts, rest_eq⟩ := tells_quote trivial trivial same
  exact ⟨String.toList_injective texts, rest_eq⟩

/-- A quoted text starts with one of its two marks. -/
theorem quoted_append_ne {first : Char} (other : first ≠ '\'' ∧ first ≠ '"') (text : String)
    (rest last : List Char) : (quoted text).toList ++ rest ≠ first :: last := by
  intro same
  rw [toList_quoted] at same
  have starts := (List.cons.inj same).1
  rcases quoteMark_eq text.toList with mark | mark
  · exact other.1 (starts.symm.trans mark)
  · exact other.2 (starts.symm.trans mark)

end ApiCompiler.Text
