import ApiCompiler.Call.Mapping
import Mathlib.Tactic.Common

/-!
# Entries under text keys

What setting keys of a mapping does to the value under a text key: the value that is set for the key
is found there, and setting any other key leaves it alone.
-/

namespace ApiCompiler.Value

theorem sameKey_str_right {key : Value} {name : String} :
    sameKey key (.str name) = true ↔ key = .str name := by
  cases key <;> simp [sameKey, size?]

theorem sameKey_str_left {name : String} {key : Value} :
    sameKey (.str name) key = true ↔ key = .str name := by
  cases key with
  | str text =>
      rw [sameKey, beq_iff_eq, Value.str.injEq]
      exact eq_comm
  | _ => simp [sameKey]

theorem sameKey_str_of_ne {key : Value} {name : String} (differs : key ≠ .str name) :
    sameKey key (.str name) = false := by
  rw [← Bool.not_eq_true, sameKey_str_right]
  exact differs

@[simp] theorem field?_nil (name : String) : field? [] name = none := rfl

@[simp] theorem field?_cons_self (name : String) (value : Value) (entries : List (Value × Value)) :
    field? ((.str name, value) :: entries) name = some value := by
  simp [field?, lookup?, sameKey]

theorem field?_cons_of_ne {key : Value} {name : String} (differs : key ≠ .str name) (value : Value)
    (entries : List (Value × Value)) : field? ((key, value) :: entries) name =
      field? entries name := by
  simp [field?, lookup?, sameKey_str_of_ne differs]

theorem field?_eq_none_iff {entries : List (Value × Value)} {name : String} :
    field? entries name = none ↔ ∀ entry ∈ entries, entry.1 ≠ .str name := by
  rw [field?, lookup?, Option.map_eq_none_iff, List.find?_eq_none]
  simp only [sameKey_str_right]

theorem mem_of_field?_eq_some {entries : List (Value × Value)} {name : String} {value : Value}
    (found : field? entries name = some value) : (.str name, value) ∈ entries := by
  obtain ⟨⟨key, held⟩, searched, rfl⟩ := Option.map_eq_some_iff.mp found
  have same : key = .str name := sameKey_str_right.mp (by simpa using List.find?_some searched)
  exact same ▸ List.mem_of_find?_eq_some searched

/-- Where no key stands twice, an entry of a name is what is found under it. -/
theorem field?_eq_some_iff_mem {entries : List (Value × Value)}
    (distinct : (entries.map Prod.fst).Nodup)
    {name : String} {value : Value} : field? entries name = some value ↔
      (.str name, value) ∈ entries := by
  refine ⟨mem_of_field?_eq_some, fun member => ?_⟩
  induction entries with
  | nil => cases member
  | cons entry entries induction =>
      rw [List.map_cons, List.nodup_cons] at distinct
      rcases List.mem_cons.mp member with rfl | later
      · exact field?_cons_self ..
      · have differs : entry.1 ≠ .str name := by
          intro same
          exact distinct.1 (same ▸ List.mem_map_of_mem later)
        rw [show entry = (entry.1, entry.2) from rfl, field?_cons_of_ne differs,
          induction distinct.2 later]

/-- Where no key stands twice, the order of the entries does not matter to what is found. -/
theorem field?_eq_of_perm {entries others : List (Value × Value)} (perm : entries.Perm others)
    (distinct : (entries.map Prod.fst).Nodup) (name : String) :
      field? entries name = field? others name := by
  ext value
  rw [field?_eq_some_iff_mem distinct,
    field?_eq_some_iff_mem ((perm.map Prod.fst).nodup_iff.mp distinct), perm.mem_iff]

theorem field?_append (left right : List (Value × Value)) (name : String) :
    field? (left ++ right) name = (field? left name).or (field? right name) := by
  rw [field?, lookup?, List.find?_append]
  cases found : left.find? (sameKey ·.1 (.str name)) <;> simp [field?, lookup?, found]

/-- Dropping no entry of a name leaves its value alone. -/
theorem field?_filter_of_forall {entries : List (Value × Value)} {keeps : Value × Value → Bool}
    {name : String} (kept : ∀ entry ∈ entries, entry.1 = .str name → keeps entry = true) :
    field? (entries.filter keeps) name = field? entries name := by
  induction entries with
  | nil => rfl
  | cons entry entries induction =>
      obtain ⟨own, others⟩ := List.forall_mem_cons.mp kept
      obtain ⟨key, value⟩ := entry
      by_cases named : key = .str name
      · rw [List.filter_cons_of_pos (own named), named, field?_cons_self, field?_cons_self]
      · rw [field?_cons_of_ne named, ← induction others, List.filter_cons]
        split
        · exact field?_cons_of_ne named value _
        · rfl

/-- The value of a name stands where its entry is kept. -/
theorem field?_filter_of_eq_some {entries : List (Value × Value)} {keeps : Value × Value → Bool}
    {name : String} {value : Value} (found : field? entries name = some value)
    (kept : keeps (.str name, value) = true) : field? (entries.filter keeps) name = some value := by
  induction entries with
  | nil => contradiction
  | cons entry entries induction =>
      obtain ⟨key, held⟩ := entry
      by_cases named : key = .str name
      · subst named
        obtain rfl := Option.some.inj ((field?_cons_self name held entries).symm.trans found)
        rw [List.filter_cons_of_pos kept, field?_cons_self]
      · rw [field?_cons_of_ne named] at found
        rw [List.filter_cons]
        split
        · rw [field?_cons_of_ne named, induction found]
        · exact induction found

theorem field?_insert_of_ne {entries : List (Value × Value)} {key : Value} {name : String}
    (differs : key ≠ .str name) (value : Value) :
    field? (insert entries key value) name = field? entries name := by
  induction entries with
  | nil => exact field?_cons_of_ne differs value []
  | cons entry entries induction =>
      obtain ⟨held, old⟩ := entry
      rw [insert]
      split
      · rename_i same
        -- A key that is the same as another key is no text, or else the other key is that text.
        have unnamed : held ≠ .str name := by
          rintro rfl
          exact differs (sameKey_str_left.mp same)
        rw [field?_cons_of_ne unnamed, field?_cons_of_ne unnamed]
      · by_cases named : held = .str name
        · subst named
          rw [field?_cons_self, field?_cons_self]
        · rw [field?_cons_of_ne named, field?_cons_of_ne named, induction]

theorem field?_insert_self (entries : List (Value × Value)) (name : String) (value : Value) :
    field? (insert entries (.str name) value) name = some value := by
  induction entries with
  | nil => exact field?_cons_self name value []
  | cons entry entries induction =>
      obtain ⟨held, old⟩ := entry
      rw [insert]
      split
      · next same => rw [sameKey_str_right.mp same, field?_cons_self]
      · next differs =>
        rw [field?_cons_of_ne fun same => differs (sameKey_str_right.mpr same), induction]

/-- Entries whose keys are not there yet are added at the end, as they are. -/
theorem foldl_insert_of_distinct {names : List (String × Value)} {entries : List (Value × Value)}
    (distinct : (names.map (·.1)).Nodup)
    (fresh : ∀ name ∈ names.map (·.1), ∀ entry ∈ entries, entry.1 ≠ .str name) :
    (names.map fun entry => (Value.str entry.1, entry.2)).foldl
        (fun built entry => insert built entry.1 entry.2) entries =
      entries ++ names.map fun entry => (.str entry.1, entry.2) := by
  induction names generalizing entries with
  | nil => simp
  | cons entry names induction =>
      obtain ⟨name, value⟩ := entry
      have absent (held : List (Value × Value)) (none : ∀ entry ∈ held, entry.1 ≠ .str name) :
          insert held (.str name) value = held ++ [(.str name, value)] := by
        induction held with
        | nil => rfl
        | cons first held further =>
            have differs := sameKey_str_of_ne (none first List.mem_cons_self)
            rw [insert, differs, further fun entry member =>
              none entry (List.mem_cons_of_mem _ member)]
            rfl
      rw [List.map_cons, List.nodup_cons] at distinct
      rw [List.map_cons, List.foldl_cons, absent entries (fresh name (by simp)),
        induction distinct.2 ?_]
      · simp
      · intro other member entry held
        rcases List.mem_append.mp held with old | new
        · exact fresh other (List.mem_cons_of_mem _ member) entry old
        · rw [List.mem_singleton.mp new]
          rintro ⟨⟩
          exact distinct.1 member

theorem forall_mem_insert {entries : List (Value × Value)} {key value : Value}
    {keys values : Value → Prop} (ownKey : keys key) (own : values value)
    (each : ∀ entry ∈ entries, keys entry.1 ∧ values entry.2) :
    ∀ entry ∈ insert entries key value, keys entry.1 ∧ values entry.2 := by
  induction entries with
  | nil => exact List.forall_mem_singleton.mpr ⟨ownKey, own⟩
  | cons entry entries induction =>
      obtain ⟨first, others⟩ := List.forall_mem_cons.mp each
      rw [insert]
      split
      · exact List.forall_mem_cons.mpr ⟨⟨first.1, own⟩, others⟩
      · exact List.forall_mem_cons.mpr ⟨first, induction others⟩

/-- Each key of a mapping and each of its values comes from the entries that were set. -/
theorem forall_mem_ofEntries {entries : List (Value × Value)} (keys values : Value → Prop)
    (each : ∀ entry ∈ entries, keys entry.1 ∧ values entry.2) :
    ∀ entry ∈ ofEntries entries, keys entry.1 ∧ values entry.2 := by
  suffices extended : ∀ built : List (Value × Value),
    (∀ entry ∈ built, keys entry.1 ∧ values entry.2) →
      ∀ entry ∈ entries.foldl (fun built entry => insert built entry.1 entry.2) built,
        keys entry.1 ∧ values entry.2 from extended [] nofun
  induction entries with
  | nil => exact fun _ held => held
  | cons entry entries induction =>
      obtain ⟨first, others⟩ := List.forall_mem_cons.mp each
      exact fun built held =>
        induction others _ (forall_mem_insert first.1 first.2 held)

end ApiCompiler.Value

namespace ApiCompiler.Call

open Value

/-- A mapping, or nothing in place of the empty one. -/
inductive OptionalMapping : Value → Entries → Prop where
  | mapping (given : Entries) : OptionalMapping (.map given) given
  | nothing : OptionalMapping .null []

theorem orElse_eq {value : Value} {given : Entries} (mapping : OptionalMapping value given) :
    value.orElse (.map []) = .map given := by
  cases mapping with
  | mapping given => cases given <;> rfl
  | nothing => rfl

theorem optionalEntries_eq {value : Value} {given : Entries}
    (mapping : OptionalMapping value given) :
    optionalEntries value = .ok given := by
  rw [optionalEntries, orElse_eq mapping]
  rfl

theorem forall_mem_without {entries : Entries} {name : String} :
    ∀ entry ∈ without entries name, entry ∈ entries ∧ entry.1 ≠ .str name := by
  intro entry member
  obtain ⟨present, kept⟩ := List.mem_filter.mp member
  refine ⟨present, ?_⟩
  intro same
  rw [same, sameKey_str_right.mpr rfl] at kept
  contradiction

/-- Leaving one key out leaves the values under all others alone. -/
theorem field?_without_of_ne {entries : Entries} {name other : String} (differs : name ≠ other) :
    field? (without entries other) name = field? entries name := by
  refine field?_filter_of_forall fun entry _ named => ?_
  have unnamed : entry.1 ≠ .str other := fun same =>
    differs (Value.str.inj (named.symm.trans same))
  rw [sameKey_str_of_ne unnamed, Bool.not_false]

/-- Setting other keys leaves the value under a text key alone. -/
theorem field?_update_of_forall_ne {entries others : Entries} {name : String}
    (differ : ∀ entry ∈ others, entry.1 ≠ .str name) :
    field? (update entries others) name = field? entries name := by
  induction others generalizing entries with
  | nil => rfl
  | cons other others induction =>
      change field? (update (insert entries other.1 other.2) others) name = _
      rw [induction fun entry member => differ entry (List.mem_cons_of_mem _ member),
        field?_insert_of_ne (differ other List.mem_cons_self) other.2]

end ApiCompiler.Call
