import ApiCompiler.Document.Source
import ApiCompiler.Proofs.Json.Reading
import ApiCompiler.Proofs.Outcome
import ApiCompiler.Proofs.Yaml.Json

/-!
# One document in two formats

What JSON accepts as a document is read alike whether JSON is expected or nothing is known. Where it
is expected to be YAML and is portable, the document has the same keys in the same order and the
same values but for numbers that YAML does not know, which are texts.
-/

namespace ApiCompiler.Document

open Json Outcome

variable {text : String} {entries : List (Value × Value)}

theorem read_json_eq (accepted : Json.read text = .ok (.map entries)) :
    read .json text = .ok (.map entries) := by
  rw [read, readJson, accepted]
  rfl

theorem read_unknown_eq (accepted : Json.read text = .ok (.map entries)) :
    read .unknown text = .ok (.map entries) := by
  rw [read, readJson, accepted]
  rfl

/-- Where JSON has an object, YAML has a mapping. -/
theorem requireMapping_yamlValue {written : Syntax} (object : written.value = .map entries) :
    requireMapping written.yamlValue = .ok written.yamlValue := by
  cases written with
  | emptyObject blank => rfl
  | object blank entries => rfl
  | word name value named => exact absurd object (value_ne_map_of_mem_namedValues named entries)
  | number numeral => exact absurd object (numeral.value_ne_map entries)
  | string pieces => contradiction
  | emptyArray blank => contradiction
  | array blank items => contradiction

theorem read_yaml_eq {before after : Blank} {written : Syntax}
    (object : written.value = .map entries)
    (writes : text.toList = before.text ++ written.text ++ after.text)
    (spacedBefore : before.Portable)
    (spacedAfter : after.Portable) (portable : written.Portable) :
    read .yaml text = .ok written.yamlValue := by
  have reads : Yaml.read text = .ok written.yamlValue := by
    rw [← @String.ofList_toList text, writes]
    exact yaml_read_object object spacedBefore spacedAfter portable
  rw [read, readYaml, reads]
  exact requireMapping_yamlValue object

/-- The document that has a number under the key `a`. -/
def numbered (numeral : Numeral) : Syntax :=
  .object .none (.last [.plain 'a' (by decide) (by decide) (by decide)] .none
    ⟨[' '], List.forall_mem_singleton.mpr (by decide)⟩ (.number numeral) .none)

theorem portable_numbered {numeral : Numeral} (portable : numeral.Portable) :
    (numbered numeral).Portable := by
  have spaced : '\t' ∉ [' '] := by decide
  refine ⟨Blank.portable_none, ⟨?_, List.forall_mem_nil _, by decide⟩, spaced, portable,
    Blank.portable_none⟩
  exact List.forall_mem_singleton.mpr ⟨by decide, by decide⟩

variable {numeral : Numeral} (portable : numeral.Portable)
  (writes : text.toList = (numbered numeral).text)

include portable writes

theorem json_read_numbered : Json.read text = .ok (.map [(.str "a", numeral.value)]) := by
  have reads := readText_portable (portable_numbered portable) .none .none
  rw [Blank.text_none, List.nil_append, List.append_nil] at reads
  rw [Json.read, writes, reads]
  rfl

theorem yaml_read_numbered :
    read .yaml text = .ok (.map [(.str "a",
      if Yaml.Standard numeral then numeral.value else .str (String.ofList numeral.text))]) := by
  refine @read_yaml_eq _ _ .none .none (numbered numeral) rfl ?_ Blank.portable_none
    Blank.portable_none
    (portable_numbered portable)
  rw [writes, Blank.text_none, List.nil_append, List.append_nil]

omit portable writes

theorem small_marks : 'e' = 'e' ∨ 'e' = 'E' :=
  .inl rfl

/-- One thousand, as YAML knows it or not. -/
def thousand (standard : Bool) : Numeral where
  negative := false
  whole := ['1']
  fraction := if standard then ['0'] else []
  exponent := some ⟨'e', if standard then some false else none, ['3'], small_marks, by decide,
    List.forall_mem_singleton.mpr (by decide)⟩
  filled := by decide
  bare := by decide
  isDigits := by
    refine List.forall_mem_append.mpr ⟨List.forall_mem_singleton.mpr (by decide), ?_⟩
    cases standard with
    | false => exact List.forall_mem_nil _
    | true => exact List.forall_mem_singleton.mpr (by decide)

theorem portable_thousand (standard : Bool) : (thousand standard).Portable :=
  nofun

/-- A text that JSON accepts as an object is one document with every hint but that of YAML. With
that hint, what is portable is the same document too, up to the numbers that YAML takes for
texts. -/
theorem read_of_accepted (accepted : Json.read text = .ok (.map entries)) :
    read .json text = .ok (.map entries) ∧ read .unknown text = .ok (.map entries) ∧
      ∀ (before after : Blank) (written : Syntax),
        text.toList = before.text ++ written.text ++ after.text →
          before.Portable → after.Portable → written.Portable →
            read .yaml text = .ok written.yamlValue ∧
              (written.Standard → read .yaml text = .ok (.map entries)) := by
  refine ⟨read_json_eq accepted, read_unknown_eq accepted,
    fun before after written writes spacedBefore spacedAfter portable => ?_⟩
  have value : written.value = .map entries := by
    have reads := mapError_eq_ok.mp accepted
    rw [writes, readText_portable portable] at reads
    exact Except.ok.inj reads
  have reads := read_yaml_eq value writes spacedBefore spacedAfter portable
  exact ⟨reads, fun standard => by rw [reads, written.yamlValue_eq standard, value]⟩

/-- One thousand is one number with all hints where its exponent stands behind a point and has a
sign. -/
theorem read_of_accepted_thousand :
    Json.read "\x7b\"a\": 1.0e+3\x7d" = .ok (.map [(.str "a", .float (.ofDecimal false 10 2))]) ∧
      ∀ expected : Expected,
        read expected "\x7b\"a\": 1.0e+3\x7d" =
          .ok (.map [(.str "a", .float (.ofDecimal false 10 2))]) := by
  have portable := portable_thousand true
  have writes : "\x7b\"a\": 1.0e+3\x7d".toList =
      Blank.none.text ++ (numbered (thousand true)).text ++ Blank.none.text := by rfl
  have accepted := json_read_numbered portable writes
  obtain ⟨json, unknown, yaml⟩ := read_of_accepted accepted
  have same := (yaml .none .none _ writes Blank.portable_none Blank.portable_none
    (portable_numbered portable)).2 (by decide : Yaml.Standard (thousand true))
  refine ⟨accepted, fun expected => ?_⟩
  cases expected with
  | json => exact json
  | yaml => exact same
  | unknown => exact unknown

/-- One thousand is a number of JSON and, its exponent without a point and a sign, a text of
YAML. -/
theorem unsigned_exponent_is_text :
    read .json "\x7b\"a\": 1e3\x7d" = .ok (.map [(.str "a", .float (.ofDecimal false 1 3))]) ∧
      read .yaml "\x7b\"a\": 1e3\x7d" = .ok (.map [(.str "a", .str "1e3")]) := by
  have portable := portable_thousand false
  have writes : "\x7b\"a\": 1e3\x7d".toList = (numbered (thousand false)).text := by rfl
  exact ⟨read_json_eq (json_read_numbered portable writes), yaml_read_numbered portable writes⟩

end ApiCompiler.Document
