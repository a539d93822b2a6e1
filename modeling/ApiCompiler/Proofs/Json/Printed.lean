import ApiCompiler.Console
import ApiCompiler.Proofs.Json.Reading
import ApiCompiler.Proofs.Text.Pieces

/-!
# Reading what is printed

A value that is made of null, truth values and texts, in lists and in mappings, is printed, and what
is printed is read back to the value: mappings keep their keys in order, and texts all of their
characters.
-/

namespace ApiCompiler.Json

open Text

/-- Values of JSON without numbers; no key of a mapping stands twice. -/
inductive Numberless : Value → Prop where
  | null : Numberless .null
  | bool (value : Bool) : Numberless (.bool value)
  | str (text : String) : Numberless (.str text)
  | list {items : List Value} (each : ∀ item ∈ items, Numberless item) : Numberless (.list items)
  | map {entries : List (String × Value)} (distinct : (entries.map (·.1)).Nodup)
      (each : ∀ entry ∈ entries, Numberless entry.2) :
      Numberless (.map (entries.map fun entry => (.str entry.1, entry.2)))

/-- The code of a control character is that of a character on its own. -/
theorem exists_code (code : Nat) (control : code ≤ 0x1F) :
    ∃ written : Code, written.text = '\\' :: 'u' :: hexDigits 4 code ∧ written.number = code := by
  have each : ∀ code ∈ List.range 0x20,
      hexDigits 4 code = ['0', '0', Nat.digitChar (code / 0x10), Nat.digitChar (code % 0x10)] ∧
        code? '0' '0' (Nat.digitChar (code / 0x10)) (Nat.digitChar (code % 0x10)) = some code := by
    decide +kernel
  obtain ⟨digits, names⟩ := each code (List.mem_range.mpr (Nat.lt_succ_of_le control))
  exact ⟨⟨_, _, _, _, code, names⟩, by rw [digits]; rfl, rfl⟩

/-- A character is written as one piece of a string. -/
theorem exists_piece (character : Char) : ∃ piece : Piece, piece.text = escapeCharacter character ∧
    piece.character = character ∧ piece.Readable := by
  unfold escapeCharacter
  split
  · next quoted =>
    refine ⟨.escape character character ?_, rfl, rfl, trivial⟩
    rcases Bool.or_eq_true_iff.mp quoted with mark | mark
    · rw [decide_eq_true_iff.mp mark]
      rfl
    · rw [decide_eq_true_iff.mp mark]
      rfl
  · next unquoted =>
    split
    · next same => exact ⟨.escape 'n' '\n' rfl, rfl, same.symm, trivial⟩
    split
    · next same => exact ⟨.escape 'r' '\r' rfl, rfl, same.symm, trivial⟩
    split
    · next same => exact ⟨.escape 't' '\t' rfl, rfl, same.symm, trivial⟩
    split
    · next same => exact ⟨.escape 'b' '\x08' rfl, rfl, same.symm, trivial⟩
    split
    · next same => exact ⟨.escape 'f' '\x0c' rfl, rfl, same.symm, trivial⟩
    split
    · next control =>
      obtain ⟨written, text, number⟩ := exists_code character.toNat control
      have single : isHighSurrogate character.toNat = false ∧
        isLowSurrogate character.toNat = false := by
        simp only [isHighSurrogate, isLowSurrogate, Bool.and_eq_false_iff, decide_eq_false_iff_not]
        omega
      refine ⟨.code written, text, ?_, by rw [Piece.Readable, number]; exact single⟩
      simp [Piece.character, characterOf, number, single.1, single.2]
    · next printed =>
      rw [Bool.or_eq_true, not_or, decide_eq_true_eq, decide_eq_true_eq] at unquoted
      exact ⟨.plain character (Nat.lt_of_not_le printed) unquoted.1 unquoted.2, rfl, rfl, trivial⟩

theorem exists_pieces (text : List Char) : ∃ pieces, quoted pieces = writeString text ∧
    contentOf pieces = text ∧ ReadableString pieces := by
  induction text with
  | nil => exact ⟨[], rfl, rfl, List.forall_mem_nil _⟩
  | cons character text induction =>
      obtain ⟨piece, written, own, readable⟩ := exists_piece character
      obtain ⟨pieces, others, content, each⟩ := induction
      refine ⟨piece :: pieces, ?_, ?_, List.forall_mem_cons.mpr ⟨readable, each⟩⟩
      · rw [quoted, writeString, List.cons_append, List.cons.injEq] at others
        rw [quoted, writeString, List.flatMap_cons, ← written, List.cons_append, List.append_assoc,
          ← others.2, rawText, List.flatMap_cons, List.append_assoc, rawText]
      · rw [contentOf, List.map_cons, own]
        exact congrArg (character :: ·) content

variable {format : Format} {level : Nat}

/-- The line break in front of an item. -/
def Format.gap (format : Format) (level : Nat) : Blank where
  text := format.lineBreak level
  spaces := by
    intro character member
    unfold Format.lineBreak at member
    split at member
    · cases member
    · rcases List.mem_cons.mp member with rfl | space
      · rfl
      · rw [(List.mem_replicate.mp space).2]
        rfl

/-- A value is printed as a syntax of the value. -/
def PrintsAs (format : Format) (level : Nat) (value : Value) (written : Syntax) : Prop :=
  write format level value = .ok written.text ∧ written.value = value ∧ written.Readable

theorem write_list_nil : write format level (.list []) = .ok ['[', ']'] := by
  rw [write, writeItems]
  rfl

theorem write_list_cons {items : List Value} {text : List Char} {texts : List (List Char)}
    (wrote : writeItems format (level + 1) items = .ok (text :: texts)) :
    write format level (.list items) =
      .ok ('[' :: joinWith [','] ((text :: texts).map (format.lineBreak (level + 1) ++ ·)) ++
        format.lineBreak level ++ [']']) := by
  rw [write, wrote]
  rfl

theorem write_map_nil : write format level (.map []) = .ok ['\x7b', '\x7d'] := by
  rw [write, writeEntries]
  rfl

theorem write_map_cons {entries : List (Value × Value)} {text : List Char}
    {texts : List (List Char)}
    (wrote : writeEntries format (level + 1) entries = .ok (text :: texts)) :
    write format level (.map entries) =
      .ok ('\x7b' :: joinWith [','] ((text :: texts).map (format.lineBreak (level + 1) ++ ·)) ++
        format.lineBreak level ++ ['\x7d']) := by
  rw [write, wrote]
  rfl

theorem writeItems_cons {item : Value} {items : List Value} {text : List Char}
    {texts : List (List Char)} (own : write format level item = .ok text)
    (others : writeItems format level items = .ok texts) :
    writeItems format level (item :: items) = .ok (text :: texts) := by
  rw [writeItems, own, others]
  rfl

theorem writeEntries_cons {name : String} {value : Value} {entries : List (Value × Value)}
    {text : List Char} {texts : List (List Char)} (own : write format level value = .ok text)
    (others : writeEntries format level entries = .ok texts) :
    writeEntries format level ((.str name, value) :: entries) =
      .ok ((writeString name.toList ++ format.colon ++ text) :: texts) := by
  rw [writeEntries, own, others]
  rfl

/-- Items that are printed one by one are printed as a row. -/
theorem exists_printed_items {items : List Value} (filled : items ≠ [])
    (each : ∀ item ∈ items, ∃ written, PrintsAs format level item written) (closing : Blank) :
    ∃ (texts : List (List Char)) (row : Items), texts ≠ [] ∧
      writeItems format level items = .ok texts ∧
      joinWith [','] (texts.map (format.lineBreak level ++ ·)) ++ closing.text ++ [']'] =
        (format.gap level).text ++ row.text ∧
      row.values = items ∧ row.Readable := by
  induction items with
  | nil => contradiction
  | cons item items induction =>
      obtain ⟨⟨written, prints, own, readable⟩, others⟩ := List.forall_mem_cons.mp each
      cases items with
      | nil =>
          refine ⟨[written.text], .last written closing, List.cons_ne_nil _ _,
            writeItems_cons prints (by rw [writeItems]), ?_, by rw [Items.values, own], readable⟩
          simp [joinWith, Items.text, Format.gap]
      | cons next items =>
          obtain ⟨texts, row, some, wrote, joined, values, rest⟩ :=
            induction (List.cons_ne_nil _ _) others
          refine ⟨written.text :: texts, .more written .none (format.gap level) row,
            List.cons_ne_nil _ _, writeItems_cons prints wrote, ?_,
            by rw [Items.values, own, values], readable, rest⟩
          rw [List.map_cons, joinWith_cons (List.map_eq_nil_iff.not.mpr some)]
          simp only [List.append_assoc] at joined ⊢
          rw [joined]
          simp [Items.text, Format.gap]

/-- Entries that are printed one by one are printed as a row. -/
theorem exists_printed_entries {entries : List (String × Value)} {after : Blank}
    (filled : entries ≠ [])
    (colon : format.colon = ':' :: after.text)
    (each : ∀ entry ∈ entries, ∃ written, PrintsAs format level entry.2 written) (closing : Blank) :
    ∃ (texts : List (List Char)) (row : Entries), texts ≠ [] ∧
      writeEntries format level (entries.map fun entry => (.str entry.1, entry.2)) = .ok texts ∧
      joinWith [','] (texts.map (format.lineBreak level ++ ·)) ++ closing.text ++ ['\x7d'] =
        (format.gap level).text ++ row.text ∧
      row.entries = entries.map (fun entry => (.str entry.1, entry.2)) ∧ row.Readable := by
  induction entries with
  | nil => contradiction
  | cons entry entries induction =>
      obtain ⟨⟨written, prints, own, readable⟩, others⟩ := List.forall_mem_cons.mp each
      obtain ⟨key, quotes, content, keyReadable⟩ := exists_pieces entry.1.toList
      have named : textValue key = .str entry.1 := by rw [textValue, content, String.ofList_toList]
      cases entries with
      | nil =>
          refine ⟨[writeString entry.1.toList ++ format.colon ++ written.text],
            .last key .none after written closing, List.cons_ne_nil _ _,
            writeEntries_cons prints (by rw [List.map_nil, writeEntries]), ?_,
            by rw [Entries.entries, named, own]; rfl, keyReadable, readable⟩
          simp [joinWith, Entries.text, Format.gap, colon, quotes]
      | cons next entries =>
          obtain ⟨texts, row, some, wrote, joined, pairs, rest⟩ :=
            induction (List.cons_ne_nil _ _) others
          refine ⟨(writeString entry.1.toList ++ format.colon ++ written.text) :: texts,
            .more key .none after written .none (format.gap level) row, List.cons_ne_nil _ _,
            writeEntries_cons prints wrote, ?_, by rw [Entries.entries, named, own, pairs]; rfl,
            keyReadable, readable, rest⟩
          rw [List.map_cons, joinWith_cons (List.map_eq_nil_iff.not.mpr some)]
          simp only [List.append_assoc] at joined ⊢
          rw [joined]
          simp [Entries.text, Format.gap, colon, quotes]

/-- A value without numbers is printed on every level. -/
theorem exists_printsAs {after : Blank} (colon : format.colon = ':' :: after.text) {value : Value}
    (numberless : Numberless value) : ∀ level, ∃ written, PrintsAs format level value written := by
  induction numberless with
  | null =>
      exact fun _ => ⟨.word "null" .null (by simp [namedValues]), by rw [write]; rfl, rfl, trivial⟩
  | bool value =>
      cases value with
      | false =>
          exact fun _ =>
            ⟨.word "false" (.bool false) (by simp [namedValues]), by rw [write]; rfl, rfl, trivial⟩
      | true =>
          exact fun _ =>
            ⟨.word "true" (.bool true) (by simp [namedValues]), by rw [write]; rfl, rfl, trivial⟩
  | str text =>
      obtain ⟨pieces, quotes, content, readable⟩ := exists_pieces text.toList
      refine fun _ => ⟨.string pieces, ?_, ?_, readable⟩
      · rw [write, Syntax.text, quotes]
      · rw [Syntax.value, textValue, content, String.ofList_toList]
  | @list items each induction =>
      intro level
      by_cases empty : items = []
      · subst empty
        exact ⟨.emptyArray .none, write_list_nil, rfl, trivial⟩
      · obtain ⟨texts, row, some, wrote, joined, values, readable⟩ := exists_printed_items empty
          (fun item member => induction item member (level + 1)) (format.gap level)
        obtain ⟨text, texts, rfl⟩ := List.exists_cons_of_ne_nil some
        refine ⟨.array (format.gap (level + 1)) row, ?_, by rw [Syntax.value, values], readable⟩
        rw [write_list_cons wrote, Syntax.text, ← joined]
        rfl
  | @map entries distinct each induction =>
      intro level
      by_cases empty : entries = []
      · subst empty
        exact ⟨.emptyObject .none, write_map_nil, rfl, trivial⟩
      · obtain ⟨texts, row, some, wrote, joined, pairs, readable⟩ :=
          exists_printed_entries empty colon
          (fun entry member => induction entry member (level + 1)) (format.gap level)
        obtain ⟨text, texts, rfl⟩ := List.exists_cons_of_ne_nil some
        refine ⟨.object (format.gap (level + 1)) row, ?_, ?_, readable⟩
        · rw [write_map_cons wrote, Syntax.text, ← joined]
          rfl
        · rw [Syntax.value, pairs, Value.ofEntries,
            Value.foldl_insert_of_distinct distinct (fun _ _ => List.forall_mem_nil _),
            List.nil_append]

/-- What is printed of a value without numbers is read back to it, blanks behind it or not. -/
theorem read_print (format : Format) (after : Blank) (colon : format.colon = ':' :: after.text)
    {value : Value} (numberless : Numberless value) : ∃ text, print format value = .ok text ∧
      ∀ blank : Blank, read (text ++ String.ofList blank.text) = .ok value := by
  obtain ⟨written, prints, rfl, readable⟩ := exists_printsAs colon numberless 0
  refine ⟨String.ofList written.text, by rw [print, prints]; rfl, fun blank => ?_⟩
  have reads := readText_readable readable .none blank
  rw [Blank.text_none, List.nil_append] at reads
  rw [read, String.toList_append, String.toList_ofList, String.toList_ofList, reads]
  rfl

end ApiCompiler.Json

namespace ApiCompiler.Console

open Json

/-- What is shown of a value without numbers is read back to it. -/
theorem read_indented {value : Value} (numberless : Numberless value) :
    ∃ text, indented value = .ok text ∧ read text = .ok value := by
  obtain ⟨text, printed, reads⟩ :=
    read_print .indented ⟨[' '], List.forall_mem_singleton.mpr rfl⟩ rfl
    numberless
  refine ⟨endLine text, by rw [indented, printed]; rfl, ?_⟩
  unfold endLine
  split
  · simpa using reads .none
  · exact reads ⟨['\n'], List.forall_mem_singleton.mpr rfl⟩

end ApiCompiler.Console
