import ApiCompiler.Proofs.Description.Stumbling
import ApiCompiler.Proofs.Text.Cut
import ApiCompiler.Proofs.Value.Entries

/-!
# Addresses of servers

An address is cut at its groups, and each group gives way to the default of the variable that it
names, or stays if there is none. What is put in is not read again, and the variables have no order.
-/

namespace ApiCompiler.Description

open Checked Outcome Text Call

/-- The default of a variable. -/
def defaultOf? (declared : Fields) (name : List Char) : Option Value := do
  let setting ← Value.field? declared (String.ofList name)
  let fields ← setting.entries?
  Value.field? fields "default"

/-- What stands for a name in an address: the default of its variable, or the name in its braces. -/
def replacement (declared : Fields) (name : List Char) : List Char :=
  match defaultOf? declared name with
  | some value => value.display
  | none => (Piece.group name).write

theorem replacement_eq_of_perm {declared others : Fields} (perm : declared.Perm others)
    (distinct : (declared.map Prod.fst).Nodup) : replacement declared = replacement others := by
  funext name
  unfold replacement defaultOf?
  rw [Value.field?_eq_of_perm perm distinct]

/-- Each variable is a mapping. -/
def AreMappings (declared : Fields) : Prop :=
  ∀ entry ∈ declared, ∃ fields, entry.2 = .map fields

section Mappings

variable {declared : Fields} (mappings : AreMappings declared)

include mappings

/-- A name is replaced unless its variable has a default that cannot be shown. -/
theorem substitute_eq (name : List Char) :
    substitute (.map declared) name =
      match defaultOf? declared name with
      | some value => if value.isShowable then .ok value.display else .error (.misuse .badContent)
      | none => .ok (Piece.group name).write := by
  unfold substitute defaultOf? getOr
  dsimp only
  cases found : Value.field? declared (String.ofList name) with
  | none => rfl
  | some setting =>
      obtain ⟨fields, same⟩ := mappings _ (Value.mem_of_field?_eq_some found)
      obtain rfl : setting = .map fields := same
      simp only [Option.getD_some, Option.bind_eq_bind, Option.bind_some, Value.entries?]
      cases Value.field? fields "default" with
      | none => rfl
      | some value =>
          dsimp only
          rw [shown_eq]
          cases value.isShowable with
          | true => exact congrArg Except.ok String.toList_ofList
          | false => rfl

theorem eq_replacement_of_substitute {name text : List Char}
    (substituted : substitute (.map declared) name = .ok text) :
      text = replacement declared name := by
  rw [substitute_eq mappings] at substituted
  unfold replacement
  split at substituted
  · split at substituted
    · exact (Except.ok.inj substituted).symm
    · contradiction
  · exact (Except.ok.inj substituted).symm

theorem exists_substitute_iff_showable {name : List Char} :
    (∃ text, substitute (.map declared) name = .ok text) ↔
      ∀ value, defaultOf? declared name = some value → value.isShowable = true := by
  rw [substitute_eq mappings]
  cases defaultOf? declared name with
  | none => simp
  | some value => cases shows : value.isShowable <;> simp [shows]

end Mappings

/-- A piece of an address with its name replaced. -/
def render (declared : Fields) : Piece → List Char
  | .group (first :: name) => replacement declared (first :: name)
  | piece => piece.write

theorem render_eq_write {declared : Fields} {piece : Piece} (plain : Cut.IsPlain piece) :
    render declared piece = piece.write := by
  unfold render
  split
  · next first name => exact absurd (plain _ rfl) (List.cons_ne_nil first name)
  · rfl

theorem render_group {declared : Fields} {name : List Char} (filled : name ≠ []) :
    render declared (.group name) = replacement declared name := by
  obtain ⟨first, rest, rfl⟩ := List.exists_cons_of_ne_nil filled
  rfl

section Substituted

variable {declared : Fields} (mappings : AreMappings declared)

include mappings

theorem eq_render_of_substitutePiece {piece : Piece} {text : List Char}
    (substituted : substitutePiece (.map declared) piece = .ok text) :
      render declared piece = text := by
  cases piece with
  | single character => exact Except.ok.inj substituted
  | group name =>
      cases name with
      | nil => exact Except.ok.inj substituted
      | cons first name => exact (eq_replacement_of_substitute mappings substituted).symm

/-- An address is replaced at its cut. -/
theorem eq_replace_of_substituteAll {cut : Cut} {address url : String}
    (splits : cut.Splits address.toList)
    (substituted : substituteAll (.map declared) address = .ok url) :
    url = String.ofList (cut.replace (replacement declared)) := by
  obtain ⟨parts, each, made⟩ := bind_eq_ok.mp substituted
  have rendered : (pieces address.toList).map (render declared) = parts := by
    rw [← List.forall₂_eq_eq_eq, List.forall₂_map_left_iff]
    exact (mapM_eq_ok_iff_forall₂.mp each).imp fun _ _ => eq_render_of_substitutePiece mappings
  rw [splits.replace_eq (fun _ => render_eq_write) (fun _ => render_group),
    List.flatMap_def, rendered]
  exact (Except.ok.inj made).symm

/-- An address is replaced exactly where every default for it can be shown. -/
theorem exists_substituteAll_iff_showable {cut : Cut} {address : String}
    (splits : cut.Splits address.toList) :
    (∃ url, substituteAll (.map declared) address = .ok url) ↔
      ∀ group ∈ cut.groups, ∀ value, defaultOf? declared group.1 = some value →
        value.isShowable = true := by
  simp only [exists_substituteAll_iff, ← exists_substitute_iff,
    exists_substitute_iff_showable mappings]
  constructor
  · intro showable group member
    have filled := (splits.named group member).filled
    exact showable group.1 filled ((splits.mem_names_iff filled).mp (List.mem_map_of_mem member))
  · intro showable name filled member
    obtain ⟨group, held, rfl⟩ := List.mem_map.mp ((splits.mem_names_iff filled).mpr member)
    exact showable group held

end Substituted

/-- An entry of a server: a text for its address, and mappings for its variables, if it has any. -/
structure IsEntry (fields : Fields) (address : String) (declared : Fields) : Prop where
  url : Value.field? fields "url" = some (.str address)
  listed : OptionalMapping (get fields "variables") declared
  mappings : AreMappings declared

/-- The description of an entry is a text, if there is one, and the defaults for its address can be
shown. -/
structure EntryFits (fields : Fields) (address : String) (declared : Fields) : Prop where
  description : IsTextOrNothing (get fields "description")
  showable : ∀ cut : Cut, cut.Splits address.toList → ∀ group ∈ cut.groups, ∀ value,
    defaultOf? declared group.1 = some value → value.isShowable = true

section Entry

variable {fields declared : Fields} {address : String} (entry : IsEntry fields address declared)

include entry

theorem extractServer_eq :
    extractServer (.map fields) = substituteAll (.map declared) address >>= fun url =>
      (Server.mk <$> .fits url <*> checkedText fields "description").orFail .server := by
  unfold extractServer
  rw [Value.entries?, Option.getD_some]
  dsimp only
  rw [entry.url, orElse_eq entry.listed]

theorem url_of_extractServer {cut : Cut} {server : Server} (splits : cut.Splits address.toList)
    (extracted : extractServer (.map fields) = .ok server) :
    server.url = String.ofList (cut.replace (replacement declared)) := by
  rw [extractServer_eq entry, bind_eq_ok] at extracted
  obtain ⟨url, substituted, built⟩ := extracted
  obtain ⟨_, description, filled, -, rfl⟩ := seq_eq_fits.mp (orFail_eq_ok.mp built)
  obtain ⟨_, ⟨⟩, rfl⟩ := map_eq_fits.mp filled
  exact eq_replace_of_substituteAll entry.mappings splits substituted

theorem exists_extractServer_iff :
    (∃ server, extractServer (.map fields) = .ok server) ↔ EntryFits fields address declared := by
  obtain ⟨cut, splits⟩ := Cut.exists_splits address.toList
  simp only [extractServer_eq entry, exists_bind_iff, exists_orFail_iff, fits_seq_iff, fits_map_iff,
    fits_checkedText_iff, fits_fits, true_and, exists_and_right,
    exists_substituteAll_iff_showable entry.mappings splits]
  constructor
  · rintro ⟨showable, description⟩
    exact ⟨description, fun other cuts => (Cut.existsUnique_splits _).unique cuts splits ▸ showable⟩
  · exact fun fits => ⟨fits.showable cut splits, fits.description⟩

end Entry

/-- An address with each of its groups replaced, at the only cut that there is; the order in which
variables are declared does not matter. -/
structure IsReplaced (address : String) (declared : Fields) (url : String) : Prop where
  unique : ∃! cut : Cut, cut.Splits address.toList
  replaced : ∀ cut : Cut, cut.Splits address.toList →
    url = String.ofList (cut.replace (replacement declared))
  reordered : ∀ others : Fields, declared.Perm others → (declared.map Prod.fst).Nodup →
    ∀ cut : Cut, cut.Splits address.toList → url = String.ofList (cut.replace (replacement others))

/-- Each entry of a server gives a server in its place, whose address is that of the entry with
every group replaced by a default or left as it is. Entries that fit are all extracted. -/
theorem isReplaced_of_extractServers (servers : List Value) :
    (∀ results, extractServers (.list servers) = .ok results →
      List.Forall₂ (fun server result => ∀ fields address declared, server = .map fields →
        IsEntry fields address declared → IsReplaced address declared result.url) servers results) ∧
    ((∀ server ∈ servers, ∃ fields address declared, server = .map fields ∧
        IsEntry fields address declared ∧ EntryFits fields address declared) →
      ∃ results, extractServers (.list servers) = .ok results) := by
  constructor
  · intro results extracted
    refine (mapM_eq_ok_iff_forall₂.mp extracted).imp ?_
    rintro _ result made fields address declared rfl entry
    have replaced {cut : Cut} (splits : cut.Splits address.toList) :=
      url_of_extractServer entry splits made
    refine ⟨Cut.existsUnique_splits _, fun _ => replaced, fun others perm distinct cut splits => ?_⟩
    rw [← replacement_eq_of_perm perm distinct, replaced splits]
  · intro entries
    refine exists_mapM_iff.mpr fun server member => ?_
    obtain ⟨fields, address, declared, rfl, entry, fits⟩ := entries server member
    exact (exists_extractServer_iff entry).mpr fits

/-- Variables of which one has a default that looks like a group, one has a number, and one has
none. -/
def nestedVariables : Fields := [
  (.str "port", .map [(.str "default", .int 8080)]),
  (.str "host", .map [(.str "default", .str "\x7bzone\x7d")]),
  (.str "zone", .map [(.str "enum", .list [])])]

/-- An address with a brace too many and an empty pair of braces. -/
def nestedAddress : String :=
  "https://\x7bhost\x7d.\x7bzone\x7d\x7b\x7bport\x7d/\x7b\x7d"

def nestedEntry : Fields :=
  [(.str "url", .str nestedAddress), (.str "variables", .map nestedVariables)]

theorem isReplaced_of_extractServers_nestedEntry :
    extractServers (.list [.map nestedEntry]) =
        .ok [⟨"https://\x7bzone\x7d.\x7bzone\x7d\x7b8080/\x7b\x7d", none⟩] ∧
      IsEntry nestedEntry nestedAddress nestedVariables ∧
      EntryFits nestedEntry nestedAddress nestedVariables ∧
      IsReplaced nestedAddress nestedVariables
        "https://\x7bzone\x7d.\x7bzone\x7d\x7b8080/\x7b\x7d" := by
  have extracted : extractServers (.list [.map nestedEntry]) =
      .ok [⟨"https://\x7bzone\x7d.\x7bzone\x7d\x7b8080/\x7b\x7d", none⟩] :=
    toOption_eq_some.mp (by decide +kernel)
  have entry : IsEntry nestedEntry nestedAddress nestedVariables :=
    ⟨rfl, .mapping _, by simp [AreMappings, nestedVariables]⟩
  obtain ⟨first, -⟩ := List.forall₂_cons.mp ((isReplaced_of_extractServers _).1 _ extracted)
  have fits :=
    (exists_extractServer_iff entry).mp (exists_mapM_iff.mp ⟨_, extracted⟩ _ List.mem_cons_self)
  exact ⟨extracted, entry, fits, first _ _ _ rfl entry⟩

end ApiCompiler.Description
