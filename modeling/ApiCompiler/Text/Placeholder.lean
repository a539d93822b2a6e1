/-!
# Placeholders

Names between braces inside a text. A brace that belongs to no pair of innermost braces stands for
itself.
-/

namespace ApiCompiler.Text

/-- A character of a text, or a name between braces. -/
inductive Piece where
  | single (character : Char)
  | group (name : List Char)
deriving Repr, DecidableEq

/-- The text that a piece stands for. -/
def Piece.write : Piece → List Char
  | .single character => [character]
  | .group name => '\x7b' :: name ++ ['\x7d']

private def opened (name : List Char) : List Piece :=
  .single '\x7b' :: name.reverse.map .single

/-- Cuts a text into pieces; behind an open brace, the name so far is held turned round. -/
private def piecesFrom : Option (List Char) → List Char → List Piece
  | none, [] => []
  | some name, [] => opened name
  | none, character :: rest =>
    if character = '\x7b' then piecesFrom (some []) rest
    else .single character :: piecesFrom none rest
  | some name, character :: rest =>
    if character = '\x7b' then opened name ++ piecesFrom (some []) rest
    else if character = '\x7d' then .group name.reverse :: piecesFrom none rest
    else piecesFrom (some (character :: name)) rest

/-- The pieces of a text, from left to right. -/
def pieces (text : List Char) : List Piece :=
  piecesFrom none text

/-- What has been read of a name in braces. -/
private def heldText : Option (List Char) → List Char
  | none => []
  | some name => '\x7b' :: name.reverse

private theorem flatMap_write_opened (name : List Char) :
    (opened name).flatMap Piece.write = '\x7b' :: name.reverse := by
  have singles (text : List Char) : (text.map Piece.single).flatMap Piece.write = text := by
    induction text with
    | nil => rfl
    | cons character text induction => rw [List.map_cons, List.flatMap_cons, induction]; rfl
  rw [opened, List.flatMap_cons, singles]
  rfl

private theorem flatMap_write_piecesFrom (state : Option (List Char)) (text : List Char) :
    (piecesFrom state text).flatMap Piece.write = heldText state ++ text := by
  fun_induction piecesFrom state text with
  | case1 => rfl
  | case2 name => rw [flatMap_write_opened, heldText, List.append_nil]
  | case3 rest induction => rw [induction]; rfl
  | case4 character rest _ induction => rw [List.flatMap_cons, induction]; rfl
  | case5 name rest induction => rw [List.flatMap_append, flatMap_write_opened, induction]; rfl
  | case6 name rest _ induction => simp [induction, Piece.write, heldText]
  | case7 name character rest _ _ induction => simp [induction, heldText]

/-- The pieces of a text write the text. -/
theorem flatMap_write_pieces (text : List Char) : (pieces text).flatMap Piece.write = text :=
  flatMap_write_piecesFrom none text

/-- A character that opens or closes a pair of braces. -/
def isBrace (character : Char) : Bool :=
  character == '\x7b' || character == '\x7d'

private theorem not_group_mem_opened {name held : List Char} : .group name ∉ opened held := by
  simp [opened]

private theorem braceless_of_group_mem_piecesFrom {state : Option (List Char)}
    {text name : List Char}
    (held : ∀ begun ∈ state, begun.any isBrace = false)
    (member : .group name ∈ piecesFrom state text) :
    name.any isBrace = false := by
  fun_induction piecesFrom state text with
  | case1 => contradiction
  | case2 begun => exact absurd member not_group_mem_opened
  | case3 rest induction => exact induction (by simp) member
  | case4 character rest _ induction => exact induction (by simp) (by simpa using member)
  | case5 begun rest induction =>
      exact induction (by simp) ((List.mem_append.mp member).resolve_left not_group_mem_opened)
  | case6 begun rest _ induction =>
      rcases List.mem_cons.mp member with same | later
      · obtain rfl := Piece.group.inj same
        simpa using held begun rfl
      · exact induction (by simp) later
  | case7 begun character rest opens closes induction =>
      refine induction (fun _ same => ?_) member
      obtain rfl := Option.some.inj same
      simpa [isBrace, opens, closes] using held begun rfl

/-- No brace stands in a name between braces. -/
theorem braceless_of_group_mem_pieces {text name : List Char} (member : .group name ∈ pieces text) :
    name.any isBrace = false :=
  braceless_of_group_mem_piecesFrom (by simp) member

/-- A name without braces is read to the brace that closes it. -/
private theorem piecesFrom_name (begun : List Char) {name : List Char}
    (braceless : name.any isBrace = false) (rest : List Char) :
    piecesFrom (some begun) (name ++ '\x7d' :: rest) =
      .group (begun.reverse ++ name) :: piecesFrom none rest := by
  induction name generalizing begun with
  | nil => simp [piecesFrom]
  | cons character name induction =>
      rw [List.any_cons, Bool.or_eq_false_iff] at braceless
      obtain ⟨plain, others⟩ := braceless
      rw [isBrace, Bool.or_eq_false_iff, beq_eq_false_iff_ne, beq_eq_false_iff_ne] at plain
      rw [List.cons_append, piecesFrom, if_neg plain.1, if_neg plain.2, induction _ others]
      simp

/-- A name in braces is a piece of its own, whatever is open in front of it. -/
private theorem group_mem_piecesFrom (state : Option (List Char)) (front : List Char)
    {name : List Char} (braceless : name.any isBrace = false) (back : List Char) :
    .group name ∈ piecesFrom state (front ++ '\x7b' :: (name ++ '\x7d' :: back)) := by
  induction front generalizing state with
  | nil => cases state <;> simp [piecesFrom, piecesFrom_name _ braceless]
  | cons character front induction =>
      rw [List.cons_append]
      cases state with
      | none =>
          rw [piecesFrom]
          split
          · exact induction _
          · exact List.mem_cons_of_mem _ (induction _)
      | some begun =>
          rw [piecesFrom]
          split
          · exact List.mem_append_right _ (induction _)
          · split
            · exact List.mem_cons_of_mem _ (induction _)
            · exact induction _

/-- A pair of braces stands in a text, with no brace between them. -/
def HoldsBraces (text : List Char) : Prop :=
  ∃ front name back, text = front ++ '\x7b' :: (name ++ '\x7d' :: back) ∧ name.any isBrace = false

/-- A text has a name in braces among its pieces exactly where such a pair stands in it. -/
theorem exists_group_mem_pieces_iff {text : List Char} :
    (∃ name, .group name ∈ pieces text) ↔ HoldsBraces text := by
  constructor
  · rintro ⟨name, member⟩
    obtain ⟨front, back, split⟩ := List.append_of_mem member
    have written := flatMap_write_pieces text
    rw [split, List.flatMap_append, List.flatMap_cons] at written
    refine ⟨front.flatMap Piece.write, name, back.flatMap Piece.write, ?_,
      braceless_of_group_mem_pieces member⟩
    rw [← written]
    simp [Piece.write]
  · rintro ⟨front, name, back, rfl, braceless⟩
    exact ⟨name, group_mem_piecesFrom none front braceless back⟩

/-- A name in braces is one piece, whatever follows it. -/
theorem pieces_group_append {name : List Char} (braceless : name.any isBrace = false)
    (rest : List Char) :
    pieces ('\x7b' :: (name ++ '\x7d' :: rest)) = .group name :: pieces rest := by
  rw [pieces, piecesFrom, if_pos rfl, piecesFrom_name [] braceless]
  rfl

/-- A brace that opens ends whatever is open in front of it. -/
private theorem piecesFrom_append_opening (state : Option (List Char)) (front rest : List Char) :
    piecesFrom state (front ++ '\x7b' :: rest) =
      piecesFrom state front ++ piecesFrom (some []) rest := by
  fun_induction piecesFrom state front with
  | case1 => rw [List.nil_append, piecesFrom, if_pos rfl, List.nil_append]
  | case2 name => rw [List.nil_append, piecesFrom, if_pos rfl]
  | case3 front induction => rw [List.cons_append, piecesFrom, if_pos rfl, induction]
  | case4 character front differs induction =>
      rw [List.cons_append, piecesFrom, if_neg differs, induction, List.cons_append]
  | case5 name front induction =>
      rw [List.cons_append, piecesFrom, if_pos rfl, induction, List.append_assoc]
  | case6 name front differs induction =>
      rw [List.cons_append, piecesFrom, if_neg differs, if_pos rfl, induction, List.cons_append]
  | case7 name character front opens closes induction =>
      rw [List.cons_append, piecesFrom, if_neg opens, if_neg closes, induction]

/-- A name in braces cuts the pieces in front of it from those behind. -/
theorem pieces_append_group {name : List Char} (braceless : name.any isBrace = false)
    (front back : List Char) :
    pieces (front ++ ((Piece.group name).write ++ back)) =
      pieces front ++ .group name :: pieces back := by
  have spelled : (Piece.group name).write ++ back = '\x7b' :: (name ++ '\x7d' :: back) := by
    simp [Piece.write]
  rw [spelled, ← pieces_group_append braceless, pieces, piecesFrom_append_opening]
  rfl

end ApiCompiler.Text
