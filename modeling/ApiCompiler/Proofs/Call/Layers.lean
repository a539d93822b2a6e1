import ApiCompiler.Call.Layers
import ApiCompiler.Proofs.Outcome
import ApiCompiler.Proofs.Value.Entries
import Mathlib.Data.List.Nodup

/-!
# Merged headers

What merging layers of headers gives where all names are texts: it never fails, and of the headers
with one name, compared without regard to case, the last one stands, with its own spelling and at
its own place. What is left does not depend on how the layers are grouped: layers may be merged
before others come in front of them or behind them, and merging twice is merging once.
-/

namespace ApiCompiler.Call

open Outcome

/-- Headers under texts. -/
abbrev Headers := List (String × Value)

/-- The same headers as the entries of a mapping. -/
def asEntries (headers : Headers) : Entries :=
  headers.map fun header => (.str header.1, header.2)

/-- Whether a header has a name, given in lower case. -/
def bears (name : String) (header : String × Value) : Bool :=
  Text.lowercased header.1 == name

/-- The value of a name, given in lower case. -/
def valueOf (headers : Headers) (name : String) : Option Value :=
  (headers.find? (bears name)).map (·.2)

/-- Headers with one more at the end, in place of those of its name. -/
def place (merged : Headers) (header : String × Value) : Headers :=
  merged.filter (!bears (Text.lowercased header.1) ·) ++ [header]

@[simp] theorem asEntries_append (left right : Headers) :
    asEntries (left ++ right) = asEntries left ++ asEntries right := by
  simp [asEntries]

theorem asEntries_filter (test : Value → Bool) (headers : Headers) :
    (asEntries headers).filter (fun entry => test entry.2) =
      asEntries (headers.filter fun header => test header.2) := by
  simp [asEntries, List.filter_map, Function.comp_def]

/-- Keeping what satisfies a test that never fails. -/
theorem filterM_map_of_forall_ok {ε α β : Type} {items : List α} {make : α → β}
    {test : β → Except ε Bool} {keeps : α → Bool}
    (agrees : ∀ item ∈ items, test (make item) = .ok (keeps item)) :
    (items.map make).filterM test = .ok ((items.filter keeps).map make) := by
  have gathered (held : List β) : (items.map make).filterAuxM test held =
      .ok (((items.filter keeps).map make).reverse ++ held) := by
    induction items generalizing held with
    | nil => rfl
    | cons item items induction =>
        rw [List.map_cons, List.filterAuxM, agrees item List.mem_cons_self]
        change (items.map make).filterAuxM test _ = _
        rw [induction fun other member => agrees other (List.mem_cons_of_mem _ member)]
        cases kept : keeps item <;> simp [kept]
  rw [List.filterM, gathered []]
  simp [bind, Except.bind, pure, Except.pure]

theorem addHeader_asEntries (merged : Headers) (header : String × Value) :
    addHeader (asEntries merged) (.str header.1, header.2) =
      .ok (asEntries (place merged header)) := by
  cases merged with
  | nil => rfl
  | cons first rest =>
      have kept : (asEntries (first :: rest)).filterM (fun entry => do
          return !((← foldedName entry.1).sameKey (.str (Text.lowercased header.1)))) =
            (.ok (asEntries ((first :: rest).filter (!bears (Text.lowercased header.1) ·))) :
              Except Misuse Entries) :=
        filterM_map_of_forall_ok fun _ _ => rfl
      change ((asEntries (first :: rest)).filterM (fun entry => do
          return !((← foldedName entry.1).sameKey (.str (Text.lowercased header.1)))) >>=
            fun kept => pure (kept ++ [(.str header.1, header.2)])) = _
      rw [kept]
      simp [place, asEntries, bind, Except.bind, pure, Except.pure]

theorem foldlM_addHeader (headers merged : Headers) :
    (asEntries headers).foldlM addHeader (asEntries merged) =
      .ok (asEntries (headers.foldl place merged)) := by
  induction headers generalizing merged with
  | nil => rfl
  | cons header headers induction =>
      change addHeader (asEntries merged) (.str header.1, header.2) >>=
        (fun merged => (asEntries headers).foldlM addHeader merged) = _
      rw [addHeader_asEntries]
      exact induction (place merged header)

/-- Merging layers of headers under texts places their headers one after another. -/
theorem mergeHeaders_asEntries (layers : List Headers) :
    mergeHeaders (layers.map fun layer => .map (asEntries layer)) =
      .ok (asEntries (layers.flatten.foldl place [])) := by
  have onto (merged : Headers) :
      (layers.map fun layer => Value.map (asEntries layer)).foldlM addLayer (asEntries merged) =
        .ok (asEntries (layers.flatten.foldl place merged)) := by
    induction layers generalizing merged with
    | nil => rfl
    | cons layer layers induction =>
        have first : addLayer (asEntries merged) (.map (asEntries layer)) =
            .ok (asEntries (layer.foldl place merged)) := foldlM_addHeader layer merged
        rw [List.map_cons, List.foldlM_cons, first, List.flatten_cons, List.foldl_append]
        exact induction (layer.foldl place merged)
  exact onto []

/-- No two headers have one name. -/
def Apart (headers : Headers) : Prop :=
  (headers.map fun header => Text.lowercased header.1).Nodup

theorem apart_nil : Apart [] :=
  List.nodup_nil

theorem apart_filter {headers : Headers} (apart : Apart headers) (test : String × Value → Bool) :
    Apart (headers.filter test) :=
  List.Nodup.sublist (List.filter_sublist.map _) apart

theorem apart_place {merged : Headers} (apart : Apart merged) (header : String × Value) :
    Apart (place merged header) := by
  rw [Apart, place, List.map_append, List.nodup_append]
  refine ⟨apart_filter apart _, by simp, ?_⟩
  intro name kept other added same
  obtain ⟨held, member, rfl⟩ := List.mem_map.mp kept
  simp only [List.map_cons, List.map_nil, List.mem_singleton] at added
  have differs := (List.mem_filter.mp member).2
  simp [bears, same, added] at differs

theorem apart_foldl_place {headers merged : Headers} (apart : Apart merged) :
    Apart (headers.foldl place merged) := by
  induction headers generalizing merged with
  | nil => exact apart
  | cons header headers induction => exact induction (apart_place apart header)

theorem valueOf_cons_self {key name : String} (own : Text.lowercased key = name) (value : Value)
    (headers : Headers) : valueOf ((key, value) :: headers) name = some value := by
  simp [valueOf, bears, own]

theorem valueOf_append (left right : Headers) (name : String) :
    valueOf (left ++ right) name = (valueOf left name).or (valueOf right name) := by
  rw [valueOf, List.find?_append]
  cases found : left.find? (bears name) <;> simp [valueOf, found]

/-- The header that is placed is the one that counts for its name, and no other name is touched. -/
theorem valueOf_place (merged : Headers) (header : String × Value) (name : String) :
    valueOf (place merged header) name = (valueOf [header] name).or (valueOf merged name) := by
  rw [place, valueOf_append]
  by_cases own : Text.lowercased header.1 = name
  · have dropped : valueOf (merged.filter (!bears (Text.lowercased header.1) ·)) name = none := by
      simp [valueOf, List.find?_eq_none, own]
    have placed : valueOf [header] name = some header.2 := valueOf_cons_self own header.2 []
    rw [dropped, placed]
    rfl
  · have other : valueOf [header] name = none := by simp [valueOf, bears, own]
    have untouched : valueOf (merged.filter (!bears (Text.lowercased header.1) ·)) name =
        valueOf merged name := by
      rw [valueOf, List.find?_filter, valueOf]
      congr 2
      funext held
      by_cases named : Text.lowercased held.1 = name
      · simp [bears, named, Ne.symm own]
      · simp [bears, named]
    rw [other, untouched]
    simp

/-- Of the headers with one name, the last one counts. -/
theorem valueOf_foldl_place (headers merged : Headers) (name : String) :
    valueOf (headers.foldl place merged) name =
      (valueOf headers.reverse name).or (valueOf merged name) := by
  induction headers generalizing merged with
  | nil => simp [valueOf]
  | cons header headers induction =>
      rw [List.foldl_cons, induction, valueOf_place, List.reverse_cons,
        valueOf_append, Option.or_assoc]

theorem valueOf_filter {headers : Headers} (apart : Apart headers) (test : Value → Bool)
    (name : String) :
    valueOf (headers.filter fun header => test header.2) name =
      (valueOf headers name).filter test := by
  induction headers with
  | nil => rfl
  | cons header headers induction =>
      rw [Apart, List.map_cons, List.nodup_cons] at apart
      rw [← List.singleton_append, List.filter_append, valueOf_append, valueOf_append,
        induction apart.2]
      by_cases own : Text.lowercased header.1 = name
      · -- None of the others has this name, so nothing stands in for a header that is dropped.
        have alone : valueOf headers name = none := by
          rw [valueOf, Option.map_eq_none_iff, List.find?_eq_none]
          intro other member named
          rw [bears, beq_iff_eq, ← own] at named
          exact apart.1 (List.mem_map.mpr ⟨other, member, named⟩)
        have standing : valueOf [header] name = some header.2 := valueOf_cons_self own header.2 []
        rw [alone, standing]
        cases kept : test header.2
        · have dropped : [header].filter (fun held => test held.2) = [] := by simp [kept]
          rw [dropped]
          simp [valueOf, Option.filter, kept]
        · have held : [header].filter (fun held => test held.2) = [header] := by simp [kept]
          rw [held, standing]
          simp [Option.filter, kept]
      · have absent (headers : Headers) (among : headers.Sublist [header]) :
            valueOf headers name = none := by
          rw [valueOf, Option.map_eq_none_iff, List.find?_eq_none]
          intro other member
          have same := List.mem_singleton.mp (among.subset member)
          simp [bears, same, own]
        rw [absent _ List.filter_sublist, absent _ (List.Sublist.refl _)]
        rfl

/-- Whether one of some headers has the name of another. -/
def holdsName (headers : Headers) (header : String × Value) : Bool :=
  headers.any (bears (Text.lowercased header.1))

/-- The headers that no other one of the same name follows. -/
def latest : Headers → Headers
  | [] => []
  | header :: rest => if holdsName rest header then latest rest else header :: latest rest

/-- Headers as the layers of a merge. -/
def asLayers (layers : List Headers) : List Value :=
  layers.map fun layer => .map (asEntries layer)

variable {headers : Headers}

theorem holdsName_append (front back : Headers) (header : String × Value) :
    holdsName (front ++ back) header = (holdsName front header || holdsName back header) :=
  List.any_append

/-- Every name is left. -/
theorem holdsName_latest (headers : Headers) (header : String × Value) :
    holdsName (latest headers) header = holdsName headers header := by
  induction headers with
  | nil => rfl
  | cons first rest induction =>
      rw [latest]
      split
      · next followed =>
        rw [induction, ← List.singleton_append, holdsName_append]
        cases own : holdsName [first] header with
        | false => rfl
        | true =>
            have same : Text.lowercased first.1 = Text.lowercased header.1 := by
              simpa [holdsName, bears] using own
            rw [Bool.true_or, holdsName, ← same]
            exact followed
      · rw [← List.singleton_append, holdsName_append, induction, ← holdsName_append]
        rfl

/-- What is left of two rows of headers: of the first what the second does not name, and of the
second what is left of it alone. -/
theorem latest_append (front back : Headers) :
    latest (front ++ back) = (latest front).filter (!holdsName back ·) ++ latest back := by
  induction front with
  | nil => rfl
  | cons header front induction =>
      rw [List.cons_append, latest, latest, holdsName_append]
      cases holdsName front header with
      | true => exact induction
      | false =>
          rw [Bool.false_or, if_neg Bool.false_ne_true, List.filter_cons]
          cases holdsName back header with
          | true => exact induction
          | false => exact congrArg (header :: ·) induction

/-- Headers of different names are all left. -/
theorem latest_eq_self (apart : Apart headers) : latest headers = headers := by
  induction headers with
  | nil => rfl
  | cons header rest induction =>
      rw [Apart, List.map_cons, List.nodup_cons] at apart
      have alone : holdsName rest header = false := by
        rw [holdsName, List.any_eq_false]
        intro other member same
        exact apart.1 (List.mem_map.mpr ⟨other, member, eq_of_beq same⟩)
      rw [latest, alone, if_neg Bool.false_ne_true, induction apart.2]

/-- Headers that are placed one after another drop those of their names, and the last of each name
stays. -/
theorem foldl_place_eq (headers merged : Headers) :
    headers.foldl place merged = merged.filter (!holdsName headers ·) ++ latest headers := by
  induction headers generalizing merged with
  | nil => simp [holdsName, latest]
  | cons header rest induction =>
      have dropped :
          (merged.filter (!bears (Text.lowercased header.1) ·)).filter (!holdsName rest ·) =
          merged.filter (!holdsName (header :: rest) ·) := by
        rw [List.filter_filter]
        refine List.filter_congr fun held _ => ?_
        simp [holdsName, bears, Bool.beq_comm, Bool.and_comm]
      rw [List.foldl_cons, induction, place, List.filter_append, dropped, latest, List.append_assoc]
      cases followed : holdsName rest header with
      | true => simp [followed]
      | false => simp [followed]

theorem latest_eq_foldl_place (headers : Headers) : latest headers = headers.foldl place [] := by
  rw [foldl_place_eq, List.filter_nil, List.nil_append]

theorem apart_latest (headers : Headers) : Apart (latest headers) := by
  rw [latest_eq_foldl_place]
  exact apart_foldl_place apart_nil

/-- Leaving out may start anywhere. -/
theorem latest_append_latest_append (front group back : Headers) :
    latest (front ++ (latest group ++ back)) = latest (front ++ (group ++ back)) := by
  have names : holdsName (latest group ++ back) = holdsName (group ++ back) := by
    funext header
    rw [holdsName_append, holdsName_append, holdsName_latest]
  rw [latest_append, latest_append front, names, latest_append, latest_append group,
    latest_eq_self (apart_latest group)]

theorem latest_append_self (headers : Headers) : latest (headers ++ headers) = latest headers := by
  have named : ∀ header ∈ latest headers, ¬(!holdsName headers header) = true := by
    intro header member
    have own : holdsName (latest headers) header = true :=
      List.any_eq_true.mpr ⟨header, member, beq_self_eq_true _⟩
    rw [← holdsName_latest, own]
    exact Bool.false_ne_true
  rw [latest_append, List.filter_eq_nil_iff.mpr named, List.nil_append]

theorem mergeHeaders_asLayers (layers : List Headers) :
    mergeHeaders (asLayers layers) = .ok (asEntries (latest layers.flatten)) := by
  rw [asLayers, mergeHeaders_asEntries, latest_eq_foldl_place]

/-- Merging leaves of all headers the last one of each name, so that no two have one name. Layers
that are merged first leave the same, and so do layers that are merged twice. -/
theorem mergeHeaders_latest (front group back : List Headers) :
    mergeHeaders (asLayers group) = .ok (asEntries (latest group.flatten)) ∧
      Apart (latest group.flatten) ∧
      mergeHeaders (asLayers (front ++ latest group.flatten :: back)) =
        mergeHeaders (asLayers (front ++ (group ++ back))) ∧
      mergeHeaders (asLayers [latest group.flatten]) = .ok (asEntries (latest group.flatten)) ∧
      mergeHeaders (asLayers (group ++ group)) = mergeHeaders (asLayers group) := by
  have apart := apart_latest group.flatten
  refine ⟨mergeHeaders_asLayers group, apart, ?_, ?_, ?_⟩
  · rw [mergeHeaders_asLayers, mergeHeaders_asLayers, List.flatten_append, List.flatten_cons,
      latest_append_latest_append, List.flatten_append, List.flatten_append]
  · rw [mergeHeaders_asLayers, List.flatten_singleton, latest_eq_self apart]
  · rw [mergeHeaders_asLayers, mergeHeaders_asLayers, List.flatten_append, latest_append_self]

example : latest [("Accept", .str "a"), ("X-Id", .int 1), ("accept", .str "b"), ("ACCEPT", .null)] =
    [("X-Id", .int 1), ("ACCEPT", .null)] := by
  rfl

end ApiCompiler.Call
