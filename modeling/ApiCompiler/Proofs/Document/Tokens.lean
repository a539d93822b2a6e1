import ApiCompiler.Proofs.Document.Pointers
import ApiCompiler.Proofs.Text.Spelling

/-!
# Tokens on lists

Which tokens lead into a list. A token is taken for a place if it spells the place or, below zero,
its distance from the end, in any of the spellings of numbers. Among these only the plain numeral of
the place is the token that a pointer has for it; where all tokens are such, no two references lead
along the same path.
-/

namespace ApiCompiler.Document

open Outcome Text

/-- A token leads to a place of a list of some length. -/
def Addresses (length : Nat) (token : String) (place : Nat) : Prop :=
  place < length ∧ (Spells token.toList place ∨ Spells token.toList ((place : Int) - length))

theorem itemAt?_eq_some_iff {items : List Value} {number : Int} {item : Value} :
    itemAt? items number = some item ↔
      ∃ place : Nat,
        items[place]? = some item ∧ (number = place ∨ number = (place : Int) - items.length) := by
  unfold itemAt?
  split
  · next above =>
    constructor
    · exact fun found => ⟨number.toNat, found, .inl (Int.toNat_of_nonneg above).symm⟩
    · rintro ⟨place, found, rfl | rfl⟩
      · exact found
      · have within := (List.getElem?_eq_some_iff.mp found).1
        omega
  · next below =>
    split
    · next far =>
      refine ⟨nofun, ?_⟩
      rintro ⟨place, found, rfl | rfl⟩ <;> omega
    · next near =>
      constructor
      · exact fun found => ⟨_, found, .inr (by omega)⟩
      · rintro ⟨place, found, rfl | rfl⟩
        · omega
        · have within := (List.getElem?_eq_some_iff.mp found).1
          have same : items.length - ((place : Int) - items.length).natAbs = place := by omega
          rwa [same]

/-- What is found in a list under a token is at a place that the token leads to. -/
theorem bind_itemAt?_eq_some_iff {token : String} {items : List Value} {item : Value} :
    (integer? 10 token.toList).bind (itemAt? items) = some item ↔
      ∃ place, Addresses items.length token place ∧ items[place]? = some item := by
  simp only [Option.bind_eq_some_iff, integer?_eq_some_iff, itemAt?_eq_some_iff]
  constructor
  · rintro ⟨_, spelled, place, found, rfl | rfl⟩
    · exact ⟨place, ⟨(List.getElem?_eq_some_iff.mp found).1, .inl spelled⟩, found⟩
    · exact ⟨place, ⟨(List.getElem?_eq_some_iff.mp found).1, .inr spelled⟩, found⟩
  · rintro ⟨place, ⟨-, spelled | spelled⟩, found⟩
    · exact ⟨_, spelled, place, found, .inl rfl⟩
    · exact ⟨_, spelled, place, found, .inr rfl⟩

theorem step_list_eq_ok_iff {reference token : String} {items : List Value} {node : Value} :
    step reference (.list items) token = .ok node ↔
      ∃ place, Addresses items.length token place ∧ items[place]? = some node := by
  rw [← bind_itemAt?_eq_some_iff, step]
  cases (integer? 10 token.toList).bind (itemAt? items) <;> simp

/-- A token is refused as an index exactly on a list of which it addresses no place. -/
theorem step_eq_badIndex_iff {reference token other : String} {node : Value} :
    step reference node token = .error (.badIndex reference other) ↔
      other = token ∧ ∃ items, node = .list items ∧ ¬∃ place,
        Addresses items.length token place := by
  cases node with
  | list items =>
      have unaddressed : (integer? 10 token.toList).bind (itemAt? items) = none ↔
          ¬∃ place, Addresses items.length token place := by
        rw [Option.eq_none_iff_forall_ne_some]
        simp only [ne_eq, bind_itemAt?_eq_some_iff]
        constructor
        · rintro none ⟨place, addressed⟩
          have within : place < items.length := addressed.1
          exact none items[place] ⟨place, addressed, List.getElem?_eq_getElem within⟩
        · rintro unaddressed item ⟨place, addressed, -⟩
          exact unaddressed ⟨place, addressed⟩
      simp only [Value.list.injEq, exists_eq_left', ← unaddressed, step]
      cases (integer? 10 token.toList).bind (itemAt? items) <;> simp [eq_comm]
  | map entries =>
      rw [step]
      cases Value.field? entries token <;> simp
  | _ => simp [step]

/-- Tokens are followed from a node along a path to another one: by the keys that they are, or to
the places that they address. -/
inductive Follows : Value → List String → List Step → Value → Prop where
  | here (node : Value) : Follows node [] [] node
  | key {entries : List (Value × Value)} {name : String} {next node : Value} {tokens : List String}
      {path : List Step} (held : Value.field? entries name = some next)
        (rest : Follows next tokens path node) :
      Follows (.map entries) (name :: tokens) (.key name :: path) node
  | place {items : List Value} {token : String} {place : Nat} {next node : Value}
    {tokens : List String}
      {path : List Step} (addressed : Addresses items.length token place)
        (held : items[place]? = some next)
      (rest : Follows next tokens path node) :
      Follows (.list items) (token :: tokens) (.place place :: path) node

theorem foldlM_step_eq_ok_iff {reference : String} {root node : Value} {tokens : List String} :
    tokens.foldlM (step reference) root = .ok node ↔ ∃ path, Follows root tokens path node := by
  constructor
  · intro led
    induction tokens generalizing root with
    | nil =>
        obtain rfl := Except.ok.inj led
        exact ⟨[], .here root⟩
    | cons token tokens induction =>
        rw [List.foldlM_cons, bind_eq_ok] at led
        obtain ⟨next, done, rest⟩ := led
        obtain ⟨path, followed⟩ := induction rest
        cases root with
        | map entries =>
            rw [step] at done
            split at done
            · next held =>
              obtain rfl := Except.ok.inj done
              exact ⟨_, .key held followed⟩
            · contradiction
        | list items =>
            obtain ⟨place, addressed, held⟩ := step_list_eq_ok_iff.mp done
            exact ⟨_, .place addressed held followed⟩
        | _ => cases done
  · rintro ⟨path, followed⟩
    induction followed with
    | here node => rfl
    | key held _ induction =>
        rw [List.foldlM_cons, step, held]
        exact induction
    | place addressed held _ induction =>
        rw [List.foldlM_cons, step_list_eq_ok_iff.mpr ⟨_, addressed, held⟩]
        exact induction

theorem nodeAt?_of_follows {root node : Value} {tokens : List String} {path : List Step}
    (followed : Follows root tokens path node) : nodeAt? root path = some node := by
  induction followed with
  | here node => rfl
  | key held _ induction =>
      rw [nodeAt?, List.foldlM_cons, Step.part?, held]
      exact induction
  | place addressed held _ induction =>
      rw [nodeAt?, List.foldlM_cons, Step.part?, held]
      exact induction

/-- The tokens for places are their plain numerals: no sign, blank or underscore, no digit of
another script, and no zero in front of another digit. -/
def AreCanonical (tokens : List String) (path : List Step) : Prop :=
  List.Forall₂ (fun token move => ∀ index, move = .place index → token = toString index) tokens path

theorem areCanonical_iff_of_follows {root node : Value} {tokens : List String} {path : List Step}
    (followed : Follows root tokens path node) :
      AreCanonical tokens path ↔ tokens = path.map Step.token := by
  induction followed with
  | here node => exact iff_of_true .nil rfl
  | key held _ induction =>
      rw [AreCanonical, List.forall₂_cons, List.map_cons, List.cons.injEq, ← induction]
      simp [AreCanonical, Step.token]
  | place addressed held _ induction =>
      rw [AreCanonical, List.forall₂_cons, List.map_cons, List.cons.injEq, ← induction]
      simp [AreCanonical, Step.token]

/-- A reference into the document leads to a node exactly where its tokens do, of which those for
places may be spelled in any way; of the spellings for one path exactly one is canonical. A token on
a list that addresses none of its places is refused. -/
theorem target_iff_follows {root : Value} {reference : String} {tokens : List String}
    (inside : tokens? reference = some tokens) :
    (∀ node, target root reference = .ok node ↔ ∃ path, Follows root tokens path node) ∧
    (∀ path node, Follows root tokens path node →
      nodeAt? root path = some node ∧ (AreCanonical tokens path ↔ tokens = path.map Step.token)) ∧
    (∀ path node others, Follows root tokens path node → Follows root others path node →
      AreCanonical tokens path → AreCanonical others path → tokens = others) ∧
    (∀ token, target root reference = .error (.badIndex reference token) ↔
      ∃ front back path items, tokens = front ++ token :: back ∧
        Follows root front path (.list items) ∧
        ¬∃ place, Addresses items.length token place) := by
  have walked : target root reference = tokens.foldlM (step reference) root := by
    rw [target, inside]
  refine ⟨fun node => ?_, fun path node followed => ?_,
    fun path node others followed also canonical plain => ?_,
    fun token => ?_⟩
  · rw [walked, foldlM_step_eq_ok_iff]
  · exact ⟨nodeAt?_of_follows followed, areCanonical_iff_of_follows followed⟩
  · rw [(areCanonical_iff_of_follows followed).mp canonical,
      (areCanonical_iff_of_follows also).mp plain]
  · simp only [walked, foldlM_eq_error_iff, step_eq_badIndex_iff, foldlM_step_eq_ok_iff]
    constructor
    · rintro ⟨front, _, back, _, rfl, ⟨path, followed⟩, rfl, items, rfl, unaddressed⟩
      exact ⟨front, back, path, items, rfl, followed, unaddressed⟩
    · rintro ⟨front, back, path, items, rfl, followed, unaddressed⟩
      exact ⟨front, token, back, _, rfl, ⟨path, followed⟩, rfl, items, rfl, unaddressed⟩

/-- A document with a list of two items. -/
def pair : Value :=
  .map [(.str "a", .list [.int 1, .int 2])]

theorem target_iff_follows_pair :
    tokens? "#/a/-1" = some ["a", "-1"] ∧
      Follows pair ["a", "-1"] [.key "a", .place 1] (.int 2) ∧
      target pair "#/a/-1" = .ok (.int 2) ∧
      ¬AreCanonical ["a", "-1"] [.key "a", .place 1] := by
  have inside : tokens? "#/a/-1" = some ["a", "-1"] := by decide
  have spelled : Spells "-1".toList (((1 : Nat) : Int) - 2) := integer?_eq_some_iff.mp rfl
  have followed : Follows pair ["a", "-1"] [.key "a", .place 1] (.int 2) :=
    .key rfl (.place ⟨Nat.lt_succ_self 1, .inr spelled⟩ rfl (.here _))
  obtain ⟨reached, paths, -, -⟩ := @target_iff_follows pair _ _ inside
  exact ⟨inside, followed, (reached _).mpr ⟨_, followed⟩, fun canonical =>
    absurd ((paths _ _ followed).2.mp canonical) (by decide)⟩

/-- The last item of a list is also found below zero, and each item behind a sign, zeros and
underscores. -/
theorem spellings_share_item :
    target pair "#/a/1" = .ok (.int 2) ∧ target pair "#/a/-1" = .ok (.int 2) ∧
      target pair "#/a/+0_1" = .ok (.int 2) :=
  ⟨rfl, rfl, rfl⟩

end ApiCompiler.Document
