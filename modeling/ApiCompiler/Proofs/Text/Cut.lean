import ApiCompiler.Text.Placeholder
import Mathlib.Tactic.Common

/-!
# Texts cut at their groups

A group is a name in braces, neither empty nor with a brace in it. Groups of a text never overlap,
so there is one way to cut the text at all of them.
-/

namespace ApiCompiler.Text

/-- A name that makes a group when it stands in braces. -/
structure IsName (name : List Char) : Prop where
  filled : name ≠ []
  braceless : name.any isBrace = false

/-- A group stands somewhere in a text. -/
def HoldsGroup (text : List Char) : Prop :=
  ∃ front name back, text = front ++ ((Piece.group name).write ++ back) ∧ IsName name

/-- Text and names in turns. -/
structure Cut where
  lead : List Char
  /-- Each name with the text behind it. -/
  groups : List (List Char × List Char)

namespace Cut

/-- The text of a cut with something in the place of each name. -/
def replace (cut : Cut) (replacement : List Char → List Char) : List Char :=
  cut.lead ++ cut.groups.flatMap fun group => replacement group.1 ++ group.2

/-- A cut is that of a text: written with its names in braces it is the text, and no group is left
in between. -/
structure Splits (cut : Cut) (text : List Char) : Prop where
  whole : cut.replace (fun name => (Piece.group name).write) = text
  named : ∀ group ∈ cut.groups, IsName group.1
  lead : ¬HoldsGroup cut.lead
  behind : ∀ group ∈ cut.groups, ¬HoldsGroup group.2

/-- A text with a group has one with no group in front of it. -/
theorem exists_first_group {text : List Char} (holds : HoldsGroup text) :
    ∃ front name back, text = front ++ ((Piece.group name).write ++ back) ∧ IsName name ∧
      ¬HoldsGroup front := by
  obtain ⟨front, name, back, rfl, named⟩ := holds
  induction length : front.length using Nat.strongRecOn generalizing front name back with
  | ind _ induction =>
      by_cases earlier : HoldsGroup front
      · obtain ⟨before, first, between, rfl, begins⟩ := earlier
        subst length
        have shorter :
            before.length < (before ++ ((Piece.group first).write ++ between)).length := by
          simp [Piece.write]
        rw [List.append_assoc, List.append_assoc]
        exact induction _ shorter before first _ begins rfl
      · exact ⟨front, name, back, rfl, named, earlier⟩

theorem exists_splits (text : List Char) : ∃ cut : Cut, cut.Splits text := by
  induction length : text.length using Nat.strongRecOn generalizing text with
  | ind _ induction =>
      by_cases holds : HoldsGroup text
      · obtain ⟨front, name, back, rfl, named, first⟩ := exists_first_group holds
        have shorter : back.length < (front ++ ((Piece.group name).write ++ back)).length := by
          simp [Piece.write]
          omega
        obtain ⟨rest, splits⟩ := induction _ (length ▸ shorter) back rfl
        refine ⟨⟨front, (name, rest.lead) :: rest.groups⟩, ?_, ?_, first, ?_⟩
        · rw [← splits.whole]
          simp [replace]
        · exact List.forall_mem_cons.mpr ⟨named, splits.named⟩
        · exact List.forall_mem_cons.mpr ⟨splits.lead, splits.behind⟩
      · exact ⟨⟨text, []⟩, by simp [replace], List.forall_mem_nil _, holds, List.forall_mem_nil _⟩

/-- The pieces of text and names in turns. -/
def piecesOf (cut : Cut) : List Piece :=
  pieces cut.lead ++ cut.groups.flatMap fun group => .group group.1 :: pieces group.2

theorem pieces_eq_piecesOf {cut : Cut} {text : List Char} (splits : cut.Splits text) :
    pieces text = cut.piecesOf := by
  obtain ⟨lead, groups⟩ := cut
  obtain ⟨rfl, named, -, -⟩ := splits
  induction groups generalizing lead with
  | nil => simp [replace, piecesOf]
  | cons group groups induction =>
      obtain ⟨own, others⟩ := List.forall_mem_cons.mp named
      have rest := induction group.2 others
      simp only [replace, piecesOf] at rest ⊢
      rw [List.flatMap_cons, List.append_assoc, pieces_append_group own.braceless, rest]
      simp

/-- A piece without a name, which stands for itself. -/
def IsPlain (piece : Piece) : Prop :=
  ∀ name, piece = .group name → name = []

theorem isPlain_of_mem_pieces {text : List Char} (plain : ¬HoldsGroup text) :
    ∀ piece ∈ pieces text, IsPlain piece := by
  rintro _ member name rfl
  by_contra filled
  obtain ⟨front, back, split⟩ := List.append_of_mem member
  refine plain ⟨front.flatMap Piece.write, name, back.flatMap Piece.write, ?_, filled,
    braceless_of_group_mem_pieces member⟩
  rw [← List.flatMap_cons, ← List.flatMap_append, ← split, flatMap_write_pieces]

/-- The cut that some pieces make: what stands for itself is text. -/
def ofPieces : List Piece → Cut
  | [] => ⟨[], []⟩
  | .group (first :: name) :: rest =>
    ⟨[], (first :: name, (ofPieces rest).lead) :: (ofPieces rest).groups⟩
  | piece :: rest => ⟨piece.write ++ (ofPieces rest).lead, (ofPieces rest).groups⟩

theorem ofPieces_append {front : List Piece} (plain : ∀ piece ∈ front, IsPlain piece)
    (rest : List Piece) :
    ofPieces (front ++ rest) =
      ⟨front.flatMap Piece.write ++ (ofPieces rest).lead, (ofPieces rest).groups⟩ := by
  induction front with
  | nil => rfl
  | cons piece front induction =>
      obtain ⟨own, others⟩ := List.forall_mem_cons.mp plain
      have unnamed : ∀ first name, piece ≠ .group (first :: name) :=
        fun first name same => absurd (own _ same) (List.cons_ne_nil first name)
      rw [List.cons_append, ofPieces.eq_3 _ _ fun first name same => unnamed first name same,
        induction others, List.flatMap_cons, List.append_assoc]

theorem ofPieces_pieces_append {text : List Char} (plain : ¬HoldsGroup text) (rest : List Piece) :
    ofPieces (pieces text ++ rest) = ⟨text ++ (ofPieces rest).lead, (ofPieces rest).groups⟩ := by
  rw [ofPieces_append (isPlain_of_mem_pieces plain), flatMap_write_pieces]

/-- The cut of a text is the one that its pieces make. -/
theorem Splits.eq_ofPieces {cut : Cut} {text : List Char} (splits : cut.Splits text) :
    cut = ofPieces (pieces text) := by
  rw [pieces_eq_piecesOf splits]
  obtain ⟨lead, groups⟩ := cut
  obtain ⟨-, named, plain, behind⟩ := splits
  rw [piecesOf, ofPieces_pieces_append plain]
  suffices others : ofPieces (groups.flatMap fun group => .group group.1 :: pieces group.2) =
    ⟨[], groups⟩ by
    rw [others, List.append_nil]
  clear plain
  induction groups with
  | nil => rfl
  | cons group groups induction =>
      obtain ⟨own, others⟩ := List.forall_mem_cons.mp named
      obtain ⟨back, further⟩ := List.forall_mem_cons.mp behind
      obtain ⟨name, text⟩ := group
      obtain ⟨first, rest, rfl⟩ := List.exists_cons_of_ne_nil own.filled
      rw [List.flatMap_cons, List.cons_append, ofPieces, ofPieces_pieces_append back,
        induction others further, List.append_nil]

/-- A text is cut in exactly one way. -/
theorem existsUnique_splits (text : List Char) : ∃! cut : Cut, cut.Splits text := by
  obtain ⟨cut, splits⟩ := exists_splits text
  exact ⟨cut, splits, fun other cuts => cuts.eq_ofPieces.trans splits.eq_ofPieces.symm⟩

section Render

variable {render : Piece → List Char} {replacement : List Char → List Char}
  (kept : ∀ piece, IsPlain piece → render piece = piece.write)
  (given : ∀ name, name ≠ [] → render (.group name) = replacement name)

include kept given

theorem replace_ofPieces (pieces : List Piece) :
    (ofPieces pieces).replace replacement = pieces.flatMap render := by
  fun_induction ofPieces pieces with
  | case1 => rfl
  | case2 first name rest induction =>
      rw [List.flatMap_cons, given _ (List.cons_ne_nil first name), ← induction]
      simp [replace]
  | case3 piece rest unnamed induction =>
      have plain : IsPlain piece := by
        rintro (_ | ⟨first, name⟩) same
        · rfl
        · exact absurd same (unnamed first name)
      rw [List.flatMap_cons, kept piece plain, ← induction, replace, replace, List.append_assoc]

/-- Replacing the groups among the pieces of a text replaces the names of its cut, and nothing
else. -/
theorem Splits.replace_eq {cut : Cut} {text : List Char} (splits : cut.Splits text) :
    cut.replace replacement = (pieces text).flatMap render := by
  rw [splits.eq_ofPieces, replace_ofPieces kept given]

end Render

/-- The names of a cut are those of the groups among the pieces of the text. -/
theorem Splits.mem_names_iff {cut : Cut} {text name : List Char} (splits : cut.Splits text)
    (filled : name ≠ []) : name ∈ cut.groups.map Prod.fst ↔ .group name ∈ pieces text := by
  have apart {part : List Char} (plain : ¬HoldsGroup part) : .group name ∉ pieces part :=
    fun member => filled (isPlain_of_mem_pieces plain _ member name rfl)
  rw [pieces_eq_piecesOf splits, piecesOf, List.mem_append, or_iff_right (apart splits.lead),
    List.mem_flatMap, List.mem_map]
  constructor
  · rintro ⟨group, member, rfl⟩
    exact ⟨group, member, List.mem_cons_self⟩
  · rintro ⟨group, member, held⟩
    have same := (List.mem_cons.mp held).resolve_right (apart (splits.behind group member))
    exact ⟨group, member, (Piece.group.inj same).symm⟩

end Cut

end ApiCompiler.Text
