import ApiCompiler.Proofs.Module.Prose

/-!
# Literals, comments and documentation of modules

A module's text is gone through character by character: what is code, what stands in comments and in
literals, and what stands between three double marks and is documentation. Prose never leaves the
documentation that it stands in, and a quoted text is one literal.
-/

namespace ApiCompiler.Module

open Text

/-- What is open behind a character of a module. -/
inductive Mode where
  | code
  | comment
  /-- The first mark of a literal. -/
  | opened (mark : Char)
  /-- Two marks, which are an empty literal unless a third one follows. -/
  | openedTwice (mark : Char)
  | literal (mark : Char)
  | escaped (mark : Char)
  /-- A literal of three marks, and how many marks in a row stand there that might end it. -/
  | long (mark : Char) (closing : Nat)
  | longEscaped (mark : Char)
deriving DecidableEq

namespace Mode

/-- What a character opens where nothing is open. -/
def start (character : Char) : Mode :=
  if character = '#' then .comment
  else if character = '"' || character = '\'' then .opened character
  else .code

/-- What is open behind a character of a literal on one line. -/
def inside (mark character : Char) : Mode :=
  if character = mark || character = '\n' || character = '\r' then .code
  else if character = '\\' then .escaped mark
  else .literal mark

/-- What is open behind a character of a literal of three marks. -/
def insideLong (mark : Char) (closing : Nat) (character : Char) : Mode :=
  if character = mark then if closing = 2 then .code else .long mark (closing + 1)
  else if character = '\\' then .longEscaped mark
  else .long mark 0

def next : Mode → Char → Mode
  | .code, character => start character
  | .comment, character => if character = '\n' || character = '\r' then .code else .comment
  | .opened mark, character => if character = mark then .openedTwice mark else inside mark character
  | .openedTwice mark, character => if character = mark then .long mark 0 else start character
  | .literal mark, character => inside mark character
  | .escaped mark, _ => .literal mark
  | .long mark closing, character => insideLong mark closing character
  | .longEscaped mark, _ => .long mark 0

/-- What is open behind a text. -/
def after (mode : Mode) (text : List Char) : Mode :=
  text.foldl next mode

/-- What stays of a character once documentation is deleted: of the documentation itself, only the
marks that end it. -/
def kept : Mode → Char → List Char
  | .long '"' closing, character => if character = '"' && closing == 2 then ['"', '"', '"'] else []
  | .longEscaped '"', _ => []
  | _, character => [character]

/-- What stays of a text. -/
def scan : Mode → List Char → List Char
  | _, [] => []
  | mode, character :: rest => mode.kept character ++ scan (mode.next character) rest

/-- Documentation has just been opened. -/
def documentation : Mode := .long '"' 0

theorem after_append (mode : Mode) (left right : List Char) :
    mode.after (left ++ right) = (mode.after left).after right :=
  List.foldl_append

theorem scan_append (mode : Mode) (left right : List Char) :
    mode.scan (left ++ right) = mode.scan left ++ (mode.after left).scan right := by
  induction left generalizing mode with
  | nil => rfl
  | cons character left induction =>
      rw [List.cons_append, scan, scan, induction, List.append_assoc]
      rfl

end Mode

/-- The text of a module with nothing left between the marks of its documentation. -/
def withoutDocumentation (text : String) : List Char :=
  Mode.code.scan text.toList

/-- Marks in other literals and in comments open no documentation, and escaped ones do not end
it. -/
example : withoutDocumentation "a = '\"\"\"' # \"\"\"\n\"\"\"b\\\"\"\"c\"\"\" + ''" =
    "a = '\"\"\"' # \"\"\"\n\"\"\"\"\"\" + ''".toList := by
  decide +kernel

/-- A text that stays inside of the documentation that it stands in. -/
structure Contained (text : List Char) : Prop where
  after : Mode.documentation.after text = .documentation
  scan : Mode.documentation.scan text = []

namespace Contained

instance (text : List Char) : Decidable (Contained text) :=
  decidable_of_iff (Mode.documentation.after text = .documentation ∧
      Mode.documentation.scan text = [])
    ⟨fun held => ⟨held.1, held.2⟩, fun contained => ⟨contained.after, contained.scan⟩⟩

theorem nil : Contained [] :=
  ⟨rfl, rfl⟩

theorem append {left right : List Char} (first : Contained left) (second : Contained right) :
    Contained (left ++ right) where
  after := by rw [Mode.after_append, first.after, second.after]
  scan := by rw [Mode.scan_append, first.after, first.scan, second.scan, List.append_nil]

theorem flatten {texts : List (List Char)} (each : ∀ text ∈ texts, Contained text) :
    Contained texts.flatten := by
  induction texts with
  | nil => exact .nil
  | cons text texts induction =>
      obtain ⟨first, others⟩ := List.forall_mem_cons.mp each
      exact first.append (induction others)

/-- A backslash makes of every character one that does not end documentation. -/
theorem escape (character : Char) : Contained ['\\', character] :=
  ⟨rfl, rfl⟩

theorem plain {character : Char} (unescaping : character ≠ '\\') (unmarked : character ≠ '"') :
    Contained [character] := by
  constructor <;> simp [Mode.after, Mode.scan, Mode.next, Mode.insideLong, Mode.kept,
    Mode.documentation, unmarked, unescaping]

end Contained

/-- Documentation does not end inside of a sealed text. -/
theorem contained_of_sealed {text : List Char} (closed : Sealed '"' text) : Contained text := by
  induction closed with
  | nil => exact .nil
  | escape character _ induction => exact (Contained.escape character).append induction
  | plain unescaping unmarked _ induction =>
      exact (Contained.plain unescaping unmarked).append induction

theorem contained_proseOf (text : String) : Contained (proseOf text).toList :=
  contained_of_sealed (sealed_proseOf text)

theorem contained_proseAt (width : Nat) (text : String) : Contained (proseAt width text).toList :=
  contained_of_sealed (sealed_proseAt width text)

section Quoted

variable {mark : Char}

theorem inside_of_plain {character : Char} (unescaping : character ≠ '\\')
    (unmarked : character ≠ mark)
    (inner : character ≠ '\n' ∧ character ≠ '\r') : Mode.inside mark character = .literal mark := by
  simp [Mode.inside, unescaping, unmarked, inner]

/-- A literal on one line is still open behind a sealed text without line ends. -/
theorem after_literal_of_sealed (marks : mark = '\'' ∨ mark = '"') {text : List Char}
    (closed : Sealed mark text) (inner : ∀ character ∈ text, character ≠ '\n' ∧ character ≠ '\r') :
    (Mode.literal mark).after text = .literal mark := by
  induction closed with
  | nil => rfl
  | escape character _ induction =>
      obtain ⟨-, others⟩ := List.forall_mem_cons.mp inner
      obtain ⟨-, others⟩ := List.forall_mem_cons.mp others
      have backslash : (Mode.literal mark).next '\\' = .escaped mark := by
        rcases marks with rfl | rfl <;> rfl
      change (((Mode.literal mark).next '\\').next character).after _ = _
      rw [backslash]
      exact induction others
  | plain unescaping unmarked _ induction =>
      obtain ⟨first, others⟩ := List.forall_mem_cons.mp inner
      change (Mode.inside mark _).after _ = _
      rw [inside_of_plain unescaping unmarked first]
      exact induction others

/-- Behind its opening mark, a literal is open as soon as a sealed text stands there. -/
theorem after_opened_of_sealed (marks : mark = '\'' ∨ mark = '"') {text : List Char}
    (closed : Sealed mark text) (filled : text ≠ []) :
    (Mode.opened mark).after text = (Mode.literal mark).after text := by
  have behind {first : Char} (differs : first ≠ mark) (rest : List Char) :
      (Mode.opened mark).after (first :: rest) = (Mode.literal mark).after (first :: rest) := by
    change ((Mode.opened mark).next first).after rest = _
    rw [Mode.next, if_neg differs]
    rfl
  cases closed with
  | nil => contradiction
  | escape character _ => exact behind (by rcases marks with rfl | rfl <;> decide) _
  | plain _ unmarked _ => exact behind unmarked _

end Quoted

/-- Behind a quoted text nothing is open, as long as no further mark follows. -/
theorem after_quote (text : List Char) {character : Char} (other : character ≠ '\'')
    (rest : List Char) :
    Mode.code.after (quote text ++ character :: rest) = Mode.code.after (character :: rest) := by
  cases text with
  | nil =>
      change ((Mode.openedTwice '\'').next character).after rest = _
      rw [Mode.next, if_neg other]
      rfl
  | cons first text =>
      have marks := quoteMark_eq (first :: text)
      have opens : Mode.code.after [quoteMark (first :: text)] =
        .opened (quoteMark (first :: text)) := by
        rcases marks with same | same <;> rw [same] <;> rfl
      have closes :
          (Mode.literal (quoteMark (first :: text))).after [quoteMark (first :: text)] = .code := by
        simp [Mode.after, Mode.next, Mode.inside]
      have closed := sealed_flatMap_quoteCharacter (first :: text)
      have filled := flatMap_quoteCharacter_ne_nil (quoteMark (first :: text)) first text
      rw [Mode.after_append]
      congr 1
      rw [quote, ← List.singleton_append, Mode.after_append, Mode.after_append, opens,
        after_opened_of_sealed marks closed filled,
        after_literal_of_sealed marks closed (unbroken_flatMap_quoteCharacter (first :: text)),
        closes]

/-- Code behind which nothing is open. -/
def Closed (text : List Char) : Prop :=
  Mode.code.after text = .code

namespace Closed

instance (text : List Char) : Decidable (Closed text) :=
  inferInstanceAs (Decidable (_ = _))

theorem nil : Closed [] := rfl

theorem append {left right : List Char} (first : Closed left) (second : Closed right) :
    Closed (left ++ right) := by
  rw [Closed, Mode.after_append, first, second]

theorem flatten {texts : List (List Char)} (each : ∀ text ∈ texts, Closed text) :
    Closed texts.flatten := by
  induction texts with
  | nil => exact .nil
  | cons text texts induction =>
      obtain ⟨first, others⟩ := List.forall_mem_cons.mp each
      exact first.append (induction others)

theorem literal {text : List Char} (closed : Closed text) : Closed (String.ofList text).toList := by
  rwa [String.toList_ofList]

end Closed

/-- Code around a quoted text, behind which no further mark follows. -/
theorem closed_around {lead : String} {character : Char} {tail : List Char}
    (opens : Closed lead.toList) (other : character ≠ '\'') (closes : Closed (character :: tail))
    (text : String) : Closed (lead ++ quoted text ++ String.ofList (character :: tail)).toList := by
  rw [String.toList_append, String.toList_append, String.toList_ofList, quoted,
    String.toList_ofList,
    List.append_assoc, Closed, Mode.after_append, opens, after_quote text.toList other tail]
  exact closes

/-- Of names neither literals nor comments are made. -/
theorem not_mem_of_isNameCharacter {character : Char}
    (named : Naming.isNameCharacter character = true) :
    character ∉ ['#', '"', '\'', '\\'] := by
  intro member
  simp only [List.mem_cons, List.not_mem_nil, or_false] at member
  rcases member with rfl | rfl | rfl | rfl <;> exact absurd named (by decide)

theorem closed_of_named {text : List Char}
    (named : ∀ character ∈ text, Naming.isNameCharacter character = true) : Closed text := by
  induction text with
  | nil => exact .nil
  | cons character text induction =>
      obtain ⟨first, others⟩ := List.forall_mem_cons.mp named
      have plain := not_mem_of_isNameCharacter first
      simp only [List.mem_cons, List.not_mem_nil, or_false, not_or] at plain
      have starts : Closed [character] := by
        simp [Closed, Mode.after, Mode.next, Mode.start, plain]
      exact starts.append (induction others)

theorem contained_of_named {text : List Char}
    (named : ∀ character ∈ text, Naming.isNameCharacter character = true) : Contained text := by
  refine contained_of_sealed (.of_plain fun character member => ?_)
  have plain := not_mem_of_isNameCharacter (named character member)
  simp only [List.mem_cons, List.not_mem_nil, or_false, not_or] at plain
  exact ⟨plain.2.2.2, plain.2.1⟩

end ApiCompiler.Module
