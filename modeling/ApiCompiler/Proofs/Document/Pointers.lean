import ApiCompiler.Document.Pointer
import ApiCompiler.Proofs.Outcome
import ApiCompiler.Proofs.Text.Numeral
import ApiCompiler.Proofs.Text.Pieces

/-!
# Pointers to nodes

Every node that a path of text keys and places leads to has a reference, and that leads to exactly
this node. The keys may be any texts, for their tildes and slashes are escaped.
-/

namespace ApiCompiler.Document

open Text

/-- A key with its tildes escaped. -/
def escapeTildes (key : List Char) : List Char :=
  key.flatMap fun character => if character = '~' then ['~', '0'] else [character]

/-- A text with its slashes escaped. -/
def escapeSlashes (text : List Char) : List Char :=
  text.flatMap fun character => if character = '/' then ['~', '1'] else [character]

theorem escapeTildes_cons_self (rest : List Char) :
    escapeTildes ('~' :: rest) = '~' :: '0' :: escapeTildes rest :=
  rfl

theorem escapeTildes_cons_of_ne {character : Char} (plain : character ≠ '~') (rest : List Char) :
    escapeTildes (character :: rest) = character :: escapeTildes rest := by
  rw [escapeTildes, List.flatMap_cons, if_neg plain]
  rfl

theorem escapeSlashes_cons_self (rest : List Char) :
    escapeSlashes ('/' :: rest) = '~' :: '1' :: escapeSlashes rest :=
  rfl

theorem escapeSlashes_cons_of_ne {character : Char} (plain : character ≠ '/') (rest : List Char) :
    escapeSlashes (character :: rest) = character :: escapeSlashes rest := by
  rw [escapeSlashes, List.flatMap_cons, if_neg plain]
  rfl

theorem restoreTildes_cons_of_ne {character : Char} (plain : character ≠ '~') (rest : List Char) :
    restoreTildes (character :: rest) = character :: restoreTildes rest :=
  restoreTildes.eq_2 _ _ fun _ same => absurd same plain

theorem restoreSlashes_cons_of_ne {character : Char} (plain : character ≠ '~') (rest : List Char) :
    restoreSlashes (character :: rest) = character :: restoreSlashes rest :=
  restoreSlashes.eq_2 _ _ fun _ same => absurd same plain

theorem restoreSlashes_cons_tilde_zero (rest : List Char) :
    restoreSlashes ('~' :: '0' :: rest) = '~' :: '0' :: restoreSlashes rest := by
  rw [restoreSlashes.eq_2 _ _ (by simp), restoreSlashes_cons_of_ne (by decide)]

theorem restoreTildes_escapeTildes (key : List Char) : restoreTildes (escapeTildes key) = key := by
  induction key with
  | nil => rfl
  | cons character rest induction =>
      by_cases tilde : character = '~'
      · rw [tilde, escapeTildes_cons_self, restoreTildes, induction]
      · rw [escapeTildes_cons_of_ne tilde, restoreTildes_cons_of_ne tilde, induction]

/-- Once the tildes of a key are escaped, each of them has a zero behind it. So none is taken for
the start of an escaped slash. -/
theorem restoreSlashes_escapeSlashes (key : List Char) :
    restoreSlashes (escapeSlashes (escapeTildes key)) = escapeTildes key := by
  induction key with
  | nil => rfl
  | cons character rest induction =>
      by_cases tilde : character = '~'
      · rw [tilde, escapeTildes_cons_self, escapeSlashes_cons_of_ne (by decide),
          escapeSlashes_cons_of_ne (by decide), restoreSlashes_cons_tilde_zero, induction]
      · rw [escapeTildes_cons_of_ne tilde]
        by_cases slash : character = '/'
        · rw [slash, escapeSlashes_cons_self, restoreSlashes, induction]
        · rw [escapeSlashes_cons_of_ne slash, restoreSlashes_cons_of_ne tilde, induction]

theorem slash_not_mem_escapeSlashes (text : List Char) : '/' ∉ escapeSlashes text := by
  intro member
  obtain ⟨character, -, written⟩ := List.mem_flatMap.mp member
  split at written
  · exact absurd written (by decide)
  · rename_i plain
    exact plain (List.mem_singleton.mp written).symm

theorem restoreSlashes_eq_self {text : List Char} (plain : '~' ∉ text) :
    restoreSlashes text = text := by
  induction text with
  | nil => rfl
  | cons character rest induction =>
      rw [List.mem_cons, not_or] at plain
      rw [restoreSlashes_cons_of_ne (Ne.symm plain.1), induction plain.2]

theorem restoreTildes_eq_self {text : List Char} (plain : '~' ∉ text) :
    restoreTildes text = text := by
  induction text with
  | nil => rfl
  | cons character rest induction =>
      rw [List.mem_cons, not_or] at plain
      rw [restoreTildes_cons_of_ne (Ne.symm plain.1), induction plain.2]

/-- One step of a path: by a text key of a mapping, or to a place of a list. -/
inductive Step where
  | key (name : String)
  | place (index : Nat)
deriving DecidableEq

namespace Step

/-- The part of a node that a step goes to. -/
def part? : Step → Value → Option Value
  | .key name, .map entries => Value.field? entries name
  | .place index, .list items => items[index]?
  | _, _ => none

/-- The token that a step is in a pointer. -/
def token : Step → String
  | .key name => name
  | .place index => toString index

/-- A token as it is written in a pointer. -/
def written : Step → String
  | .key name => String.ofList (escapeSlashes (escapeTildes name.toList))
  | .place index => toString index

end Step

/-- The node that a path leads to. -/
def nodeAt? (root : Value) (path : List Step) : Option Value :=
  path.foldlM (fun node move => move.part? node) root

/-- The reference that a path is written as. -/
def pointer (path : List Step) : String :=
  "#/" ++ String.intercalate "/" (path.map Step.written)

theorem slash_not_mem_written (move : Step) : '/' ∉ move.written.toList := by
  cases move with
  | key name =>
      rw [Step.written, String.toList_ofList]
      exact slash_not_mem_escapeSlashes _
  | place index => exact not_mem_toString rfl index

/-- What is written for a token is read as the token. -/
theorem tokenOf_written (move : Step) : tokenOf move.written.toList = move.token := by
  cases move with
  | key name =>
      rw [Step.written, String.toList_ofList, tokenOf, restoreSlashes_escapeSlashes,
        restoreTildes_escapeTildes, String.ofList_toList, Step.token]
  | place index =>
      have plain : '~' ∉ (toString index).toList := not_mem_toString rfl index
      rw [Step.written, tokenOf, restoreSlashes_eq_self plain, restoreTildes_eq_self plain,
        String.ofList_toList, Step.token]

theorem tokens?_pointer {path : List Step} (filled : path ≠ []) :
    tokens? (pointer path) = some (path.map Step.token) := by
  have text : (pointer path).toList =
      '#' :: '/' :: joinWith ['/'] ((path.map Step.written).map String.toList) := by
    rw [pointer, String.toList_append, toList_intercalate]
    rfl
  rw [tokens?, text]
  simp only
  rw [splitAt_joinWith (by simpa using filled) (by simp [slash_not_mem_written])]
  simp [tokenOf_written]

theorem itemAt?_natCast (items : List Value) (index : Nat) :
    itemAt? items index = items[index]? := by
  simp [itemAt?]

/-- A step of a path is the step that its token makes. -/
theorem step_token {reference : String} {node next : Value} {move : Step}
    (part : move.part? node = some next)
    (countable : ∀ index, move = .place index → index < 10 ^ numeralLimit) :
    step reference node move.token = .ok next := by
  cases move with
  | key name =>
      cases node with
      | map entries =>
          rw [Step.part?] at part
          rw [step, Step.token, part]
      | _ => cases part
  | place index =>
      cases node with
      | list items =>
          rw [Step.part?] at part
          rw [step, Step.token, toList_toString_nat, integer?_toDigits (countable index rfl),
            Option.bind_some, itemAt?_natCast, part]
      | _ => cases part

theorem foldlM_step_token {reference : String} {root node : Value} {path : List Step}
    (leads : nodeAt? root path = some node)
    (countable : ∀ index, .place index ∈ path → index < 10 ^ numeralLimit) :
    (path.map Step.token).foldlM (step reference) root = .ok node := by
  induction path generalizing root with
  | nil => exact congrArg Except.ok (Option.some.inj leads)
  | cons move path induction =>
      rw [nodeAt?, List.foldlM_cons] at leads
      obtain ⟨next, part, rest⟩ := Option.bind_eq_some_iff.mp leads
      rw [List.map_cons, List.foldlM_cons, step_token part fun index same =>
        countable index (by simp [same])]
      exact induction rest fun index member => countable index (List.mem_cons_of_mem _ member)

/-- Whatever node a path leads to, by any text keys and places, the reference that the path is
written as leads to that node. A place is read if its numeral is within the limit, as is that of
each place of a list that a machine can hold. -/
theorem target_pointer {root node : Value} {path : List Step} (filled : path ≠ [])
    (leads : nodeAt? root path = some node)
    (countable : ∀ index, .place index ∈ path → index < 10 ^ numeralLimit) :
    target root (pointer path) = .ok node := by
  rw [target, tokens?_pointer filled]
  exact foldlM_step_token leads countable

/-- A document with keys that look like pieces of pointers. -/
def crossroads : Value :=
  .map
    [(.str "a/b", .list [.null, .map [(.str "~1", .map [(.str "", .int 7)]), (.str "/", .int 8)]])]

theorem target_pointer_crossroads :
    nodeAt? crossroads [.key "a/b", .place 1, .key "~1", .key ""] = some (.int 7) ∧
      pointer [.key "a/b", .place 1, .key "~1", .key ""] = "#/a~1b/1/~01/" ∧
      target crossroads "#/a~1b/1/~01/" = .ok (.int 7) := by
  have leads : nodeAt? crossroads [.key "a/b", .place 1, .key "~1", .key ""] = some (.int 7) := rfl
  have written : pointer [.key "a/b", .place 1, .key "~1", .key ""] = "#/a~1b/1/~01/" := by decide
  refine ⟨leads, written, ?_⟩
  rw [← written]
  refine target_pointer (List.cons_ne_nil _ _) leads fun index member => ?_
  have one : index = 1 := by simpa using member
  rw [one]
  exact Nat.one_lt_pow (by decide) (by decide)

end ApiCompiler.Document
