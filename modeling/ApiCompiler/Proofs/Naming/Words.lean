import ApiCompiler.Proofs.Naming
import ApiCompiler.Proofs.Text.Pieces

/-!
# The words of a name

The words that naming finds in a name: the name is cut once at the boundaries of its letters, its
pieces are put in lower case and cut again at every other character, and what is not empty is a
word. What separates words is told from what belongs to them one character at a time, so that
neither the number nor the kind of the characters between two words matters, nor what stands at the
ends.

The steps of naming write underscores where the words part. Each of them is shown to put its
underscores where the rule for three neighbouring characters has them, and the words of what it
writes to be the words of what it was given.
-/

namespace ApiCompiler.Naming

open Text (isDigit lowercase lowerFrom smallForm joinWith)

variable {character separator : Char} {name text : List Char}

/-- Whether a name is cut between two neighbours: in front of a capital behind a small letter or
digit, and in front of the last of several capitals where a small letter follows. -/
def isCut (left right : Char) (next : Option Char) : Bool :=
  isSmall left && isUpper right || isUpper left && isUpper right && next.any isLower

/-- The pieces of a name between its cuts. -/
def cutPieces : List Char → List (List Char)
  | left :: right :: rest =>
    if isCut left right rest.head? then [left] :: cutPieces (right :: rest)
    else (cutPieces (right :: rest)).modifyHead (left :: ·)
  | rest => [rest]

/-- The stretches of small letters and digits in a text, without empty ones. -/
def stretches (text : List Char) : List (List Char) :=
  (text.splitOnP (!isSmall ·)).filter (!·.isEmpty)

/-- The words of a name. -/
def words (name : List Char) : List (List Char) :=
  (cutPieces name).flatMap fun piece => stretches (lowercase piece)

/-- A character that leaves neither a small letter nor a digit in lower case. -/
def IsSeparator (character : Char) : Prop :=
  ∀ small ∈ smallForm character, isSmall small = false

instance (character : Char) : Decidable (IsSeparator character) :=
  List.decidableBAll (isSmall · = false) (smallForm character)

/-- A text of separators alone. -/
def Separates (gap : String) : Prop :=
  ∀ character ∈ gap.toList, IsSeparator character

instance (gap : String) : Decidable (Separates gap) :=
  List.decidableBAll IsSeparator gap.toList

@[simp] theorem stretches_nil : stretches [] = [] := rfl

/-- What is neither a small letter nor a digit ends a stretch and belongs to none. -/
theorem stretches_append_cons (other : isSmall separator = false) (front back : List Char) :
    stretches (front ++ separator :: back) = stretches front ++ stretches back := by
  rw [stretches, List.splitOnP_append_cons front back (by rw [other, Bool.not_false]),
    List.filter_append]
  rfl

theorem stretches_cons_of_not_small (other : isSmall separator = false) (text : List Char) :
    stretches (separator :: text) = stretches text :=
  stretches_append_cons other [] text

theorem stretches_append_of_not_small {gap : List Char}
    (others : ∀ other ∈ gap, isSmall other = false)
    (text : List Char) : stretches (gap ++ text) = stretches text := by
  induction gap with
  | nil => rfl
  | cons other gap induction =>
      obtain ⟨own, others⟩ := List.forall_mem_cons.mp others
      rw [List.cons_append, stretches_cons_of_not_small own, induction others]

/-- One character or more between two texts keeps their stretches apart. -/
theorem stretches_append_append {gap : List Char} (something : gap ≠ [])
    (others : ∀ other ∈ gap, isSmall other = false) (front back : List Char) :
    stretches (front ++ (gap ++ back)) = stretches front ++ stretches back := by
  obtain ⟨first, gap, rfl⟩ := List.exists_cons_of_ne_nil something
  obtain ⟨own, others⟩ := List.forall_mem_cons.mp others
  rw [List.cons_append, stretches_append_cons own, stretches_append_of_not_small others]

theorem stretches_append_right {gap : List Char} (others : ∀ other ∈ gap, isSmall other = false)
    (text : List Char) : stretches (text ++ gap) = stretches text := by
  cases gap with
  | nil => rw [List.append_nil]
  | cons first gap =>
      have parted := stretches_append_append (List.cons_ne_nil first gap) others text []
      rwa [List.append_nil, stretches_nil, List.append_nil] at parted

/-- The first piece of a text is empty where the text does not start with a small letter or
digit. -/
theorem exists_splitOnP_cons (text : List Char) :
    ∃ piece pieces, text.splitOnP (!isSmall ·) = piece :: pieces ∧
      piece.isEmpty = !text.head?.any isSmall := by
  cases text with
  | nil => exact ⟨[], [], rfl, rfl⟩
  | cons first rest =>
      obtain ⟨piece, pieces, cut⟩ :=
        List.exists_cons_of_ne_nil (List.splitOnP_ne_nil (!isSmall ·) rest)
      rw [List.splitOnP_cons_eq_if_modifyHead, cut, List.head?_cons, Option.any_some]
      cases isSmall first with
      | true => exact ⟨first :: piece, pieces, rfl, rfl⟩
      | false => exact ⟨[], piece :: pieces, rfl, rfl⟩

/-- A small letter or digit goes to the stretch that follows it at once, or is one of its own. -/
theorem stretches_cons_of_small (small : isSmall character = true) (text : List Char) :
    stretches (character :: text) =
      if text.head?.any isSmall then (stretches text).modifyHead (character :: ·)
      else [character] :: stretches text := by
  obtain ⟨piece, pieces, cut, empty⟩ := exists_splitOnP_cons text
  rw [stretches, stretches, List.splitOnP_cons_eq_if_modifyHead, small, cut, Bool.not_true,
    if_neg Bool.false_ne_true, List.modifyHead_cons]
  cases starts : text.head?.any isSmall with
  | true => simp [starts ▸ empty]
  | false =>
      obtain rfl := List.isEmpty_iff.mp (empty.trans (by rw [starts]; rfl))
      rfl

/-- A text with underscores for all that is neither a small letter nor a digit. -/
def masked (text : List Char) : List Char :=
  text.map fun character => if isSmall character then character else '_'

theorem masked_append (front back : List Char) :
    masked (front ++ back) = masked front ++ masked back :=
  List.map_append

/-- Stretches stay where only characters between them are replaced, by others that belong to
none. -/
theorem stretches_map {replace : Char → Char} (keeps : ∀ character, replace character = character ∨
    isSmall (replace character) = false ∧ isSmall character = false) (text : List Char) :
    stretches (text.map replace) = stretches text := by
  have same (character : Char) : isSmall (replace character) = isSmall character :=
    (keeps character).elim (congrArg isSmall) fun others => others.1.trans others.2.symm
  induction text with
  | nil => rfl
  | cons first rest induction =>
      have starts : (rest.map replace).head?.any isSmall = rest.head?.any isSmall := by
        rw [List.head?_map, Option.any_map]
        exact congrArg (rest.head?.any ·) (funext same)
      rw [List.map_cons]
      cases small : isSmall first with
      | true =>
          have kept : replace first = first :=
            (keeps first).resolve_right fun others => Bool.false_ne_true (others.2.symm.trans small)
          rw [kept, stretches_cons_of_small small, stretches_cons_of_small small, starts, induction]
      | false =>
          rw [stretches_cons_of_not_small ((same first).trans small),
            stretches_cons_of_not_small small, induction]

theorem stretches_masked (text : List Char) : stretches (masked text) = stretches text := by
  refine stretches_map (fun character => ?_) text
  split
  · exact .inl rfl
  · next other => exact .inr ⟨by decide, Bool.eq_false_iff.mpr other⟩

theorem stretches_replaceOthers (text : List Char) :
    stretches (replaceOthers text) = stretches text := by
  refine stretches_map (fun character => ?_) text
  split
  · exact .inl rfl
  · next other =>
    refine .inr ⟨by decide, Bool.eq_false_iff.mpr fun small => other ?_⟩
    exact IsPlain.isNameCharacter (.inl small)

theorem stretches_collapse (text : List Char) : stretches (collapse text) = stretches text := by
  fun_induction collapse text with
  | case1 rest induction =>
      rw [induction]
      exact (stretches_cons_of_not_small (by decide) _).symm
  | case2 first rest _ induction =>
      cases small : isSmall first with
      | true =>
          rw [stretches_cons_of_small small, stretches_cons_of_small small, head?_collapse,
            induction]
      | false =>
          rw [stretches_cons_of_not_small small, stretches_cons_of_not_small small, induction]
  | case3 => rfl

/-- Dropping the underscores at both ends leaves what is between them. -/
theorem exists_trimUnderscores (text : List Char) :
    ∃ front back, text = front ++ (trimUnderscores text ++ back) ∧ (∀ other ∈ front, other = '_') ∧
      ∀ other ∈ back, other = '_' := by
  have dropped (text : List Char) : ∀ other ∈ text.takeWhile (· == '_'), other = '_' :=
    fun other member => by simpa using List.mem_takeWhile_imp member
  refine ⟨text.takeWhile (· == '_'),
    ((text.dropWhile (· == '_')).reverse.takeWhile (· == '_')).reverse,
    ?_, dropped text, fun other member => dropped _ other (List.mem_reverse.mp member)⟩
  rw [trimUnderscores, ← List.reverse_append, List.takeWhile_append_dropWhile, List.reverse_reverse,
    List.takeWhile_append_dropWhile]

theorem stretches_trimUnderscores (text : List Char) :
    stretches (trimUnderscores text) = stretches text := by
  obtain ⟨front, back, whole, before, behind⟩ := exists_trimUnderscores text
  have underscores {gap : List Char} (all : ∀ other ∈ gap, other = '_') :
      ∀ other ∈ gap, isSmall other = false := fun other member => all other member ▸ by decide
  conv_rhs => rw [whole]
  rw [stretches_append_of_not_small (underscores before),
    stretches_append_right (underscores behind)]

/-- The stretches of a core are its words, joined again by single underscores. -/
theorem IsCore.exists_stretches (core : IsCore name) :
    ∃ stretch others, stretches name = stretch :: others ∧ joinWith ['_']
    (stretch :: others) = name := by
  induction core with
  | @single character small =>
      exact ⟨[character], [], by rw [stretches_cons_of_small small]; rfl, rfl⟩
  | @cons character rest small core induction =>
      obtain ⟨first, starts, firstSmall⟩ := core.exists_head
      obtain ⟨stretch, others, found, joined⟩ := induction
      refine ⟨character :: stretch, others, ?_, ?_⟩
      · rw [stretches_cons_of_small small, starts, Option.any_some, firstSmall, if_pos rfl, found,
          List.modifyHead_cons]
      · rw [Text.joinWith_cons_cons, joined]
  | @underscore character rest small core induction =>
      obtain ⟨stretch, others, found, joined⟩ := induction
      refine ⟨[character], stretch :: others, ?_, ?_⟩
      · rw [stretches_cons_of_small small, stretches_cons_of_not_small (by decide), found]
        rfl
      · rw [Text.joinWith_cons (List.cons_ne_nil _ _), joined]
        rfl

/-- Put in lower case, a text leaves the same small letters and digits, whatever stands around
it. -/
theorem masked_lowerFrom (before text : List Char) :
    masked (lowerFrom before text) = text.flatMap fun character =>
      masked (smallForm character) := by
  induction text generalizing before with
  | nil => rfl
  | cons first rest induction =>
      rw [lowerFrom, masked_append, induction, List.flatMap_cons]
      congr 1
      split
      · next sigma =>
        -- A capital sigma has two small forms, and neither is a letter that stays in a name.
        have capital : first = Char.ofNat 0x3A3 := by
          rw [← eq_of_beq sigma, Char.ofNat_toNat]
        rw [capital]
        split <;> decide
      · rfl

theorem masked_lowercase_append (front back : List Char) :
    masked (lowercase (front ++ back)) = masked (lowercase front) ++ masked (lowercase back) := by
  rw [lowercase, lowercase, lowercase, masked_lowerFrom, masked_lowerFrom, masked_lowerFrom,
    List.flatMap_append]

/-- All that is left of a name is put in lower case piece by piece. -/
theorem stretches_lowercase_joinWith (pieces : List (List Char)) :
    stretches (lowercase (joinWith ['_'] pieces)) =
      pieces.flatMap fun piece => stretches (lowercase piece) := by
  induction pieces with
  | nil => rfl
  | cons piece pieces induction =>
      by_cases several : pieces = []
      · subst several
        exact (List.append_nil _).symm
      · have underscore : masked (lowercase ['_']) = ['_'] := by decide
        rw [Text.joinWith_cons several, List.flatMap_cons, ← induction, ← stretches_masked,
          masked_lowercase_append, masked_lowercase_append, underscore, List.append_assoc,
          List.singleton_append, stretches_append_cons (by decide),
          stretches_masked, stretches_masked]

/-! ## Cuts -/

/-- A name with an underscore at every cut. -/
def marks (cut : Char → Char → Option Char → Bool) : List Char → List Char
  | left :: right :: rest =>
    if cut left right rest.head? then left :: '_' :: marks cut (right :: rest)
    else left :: marks cut (right :: rest)
  | rest => rest

/-- A cut in front of a capital behind a small letter or digit. -/
def isCapitalCut (left right : Char) (_ : Option Char) : Bool :=
  isSmall left && isUpper right

/-- A cut in front of the last of several capitals where a small letter follows. -/
def isAcronymCut (left right : Char) (next : Option Char) : Bool :=
  isUpper left && isUpper right && next.any isLower

section Marks

variable {cut : Char → Char → Option Char → Bool} {left right : Char} {rest : List Char}

theorem marks_cons_of_uncut (uncut : ∀ right next, cut left right next = false) (rest : List Char) :
    marks cut (left :: rest) = left :: marks cut rest := by
  cases rest with
  | nil => rfl
  | cons right rest => rw [marks, uncut, if_neg Bool.false_ne_true]

theorem head?_marks (name : List Char) : (marks cut name).head? = name.head? := by
  fun_cases marks cut name <;> rfl

/-- The marks of a name are the joints of its pieces. -/
theorem marks_isCut_eq (name : List Char) : marks isCut name = joinWith ['_'] (cutPieces name) := by
  have filled (name : List Char) : cutPieces name ≠ [] := by
    fun_induction cutPieces name with
    | case1 => exact List.cons_ne_nil _ _
    | case2 left right rest _ induction =>
        obtain ⟨piece, pieces, cut⟩ := List.exists_cons_of_ne_nil induction
        rw [cut]
        exact List.cons_ne_nil _ _
    | case3 => exact List.cons_ne_nil _ _
  fun_induction cutPieces name with
  | case1 left right rest cut induction =>
      rw [marks, if_pos cut, induction, Text.joinWith_cons (filled _)]
      rfl
  | case2 left right rest uncut induction =>
      obtain ⟨piece, pieces, cut⟩ := List.exists_cons_of_ne_nil (filled (right :: rest))
      rw [marks, if_neg uncut, induction, cut, List.modifyHead_cons, Text.joinWith_cons_cons]
  | case3 name short =>
      rw [marks]
      · rfl
      · exact short

theorem not_upper_of_isSmall (small : isSmall left = true) : isUpper left = false :=
  IsPlain.isUpper_eq_false (.inl small)

theorem not_small_of_isUpper (upper : isUpper left = true) : isSmall left = false :=
  Bool.eq_false_iff.mpr fun small =>
    Bool.false_ne_true ((not_upper_of_isSmall small).symm.trans upper)

theorem not_lower_of_isUpper (upper : isUpper left = true) : isLower left = false :=
  (Bool.or_eq_false_iff.mp (not_small_of_isUpper upper)).1

theorem marks_capitalCut_of_isUpper (upper : isUpper left = true) (rest : List Char) :
    marks isCapitalCut (left :: rest) = left :: marks isCapitalCut rest :=
  marks_cons_of_uncut
    (fun _ _ => by rw [isCapitalCut, not_small_of_isUpper upper, Bool.false_and]) rest

theorem marks_acronymCut_of_not_upper (other : isUpper left = false) (rest : List Char) :
    marks isAcronymCut (left :: rest) = left :: marks isAcronymCut rest :=
  marks_cons_of_uncut (fun _ _ => by rw [isAcronymCut, other, Bool.false_and, Bool.false_and]) rest

theorem cutBeforeCapital_eq (name : List Char) :
    cutBeforeCapital name = marks isCapitalCut name := by
  fun_induction cutBeforeCapital name with
  | case1 left right rest cut induction =>
      have upper := (Bool.and_eq_true_iff.mp cut).2
      rw [marks, isCapitalCut, isSmall, if_pos cut, marks_capitalCut_of_isUpper upper, induction]
  | case2 left right rest uncut induction =>
      rw [marks, isCapitalCut, isSmall, if_neg uncut, induction]
  | case3 name short =>
      rw [marks]
      exact short

/-- Of several capitals, the name is cut in front of the last one or not at all. -/
theorem marks_acronymCut_capitals {capitals : List Char}
    (upper : ∀ capital ∈ capitals, isUpper capital = true) (last : isUpper right = true) :
    marks isAcronymCut (capitals ++ right :: rest) =
      capitals ++ (if !capitals.isEmpty && rest.head?.any isLower then ['_'] else []) ++
        marks isAcronymCut (right :: rest) := by
  induction capitals with
  | nil => rfl
  | cons first capitals induction =>
      obtain ⟨own, others⟩ := List.forall_mem_cons.mp upper
      cases capitals with
      | nil =>
          rw [List.singleton_append, marks, isAcronymCut, own, last, List.isEmpty_cons]
          cases rest.head?.any isLower <;> rfl
      | cons second capitals =>
          have next : ((capitals ++ right :: rest).head?).any isLower = false := by
            cases capitals with
            | nil => exact not_lower_of_isUpper last
            | cons third capitals => exact not_lower_of_isUpper (others third (by simp))
          have uncut : isAcronymCut first second (capitals ++ right :: rest).head? = false := by
            rw [isAcronymCut, next, Bool.and_false]
          rw [List.cons_append, List.cons_append, marks, uncut, if_neg Bool.false_ne_true,
            ← List.cons_append, induction others]
          rfl

/-- There is no cut in front of what is no capital, nor behind it. -/
theorem marks_acronymCut_pair (other : isUpper right = false) (left : Char) (rest : List Char) :
    marks isAcronymCut (left :: right :: rest) = left :: right :: marks isAcronymCut rest := by
  rw [marks, isAcronymCut, other, Bool.and_false, Bool.false_and, if_neg Bool.false_ne_true,
    marks_acronymCut_of_not_upper other]

/-- Capitals in front of another character, with the last of them first. -/
theorem marks_acronymCut_reverse {last earlier : Char} {capitals : List Char}
    (upper : ∀ capital ∈ last :: earlier :: capitals, isUpper capital = true)
    (other : isUpper character = false) (rest : List Char) :
    marks isAcronymCut ((last :: earlier :: capitals).reverse ++ character :: rest) =
      (earlier :: capitals).reverse ++ (if isLower character then ['_'] else []) ++
        last :: character :: marks isAcronymCut rest := by
  obtain ⟨own, others⟩ := List.forall_mem_cons.mp upper
  have several : (earlier :: capitals).reverse.isEmpty = false := by
    rw [List.isEmpty_reverse, List.isEmpty_cons]
  rw [List.reverse_cons (a := last), List.append_assoc, List.singleton_append,
    marks_acronymCut_capitals (fun capital member =>
      others capital (List.mem_reverse.mp member)) own,
    marks_acronymCut_pair other, several, Bool.not_false, Bool.true_and,
    List.head?_cons, Option.any_some]

theorem cutAcronym_eq {capitals : List Char} (upper : ∀ capital ∈ capitals, isUpper capital = true)
    (name : List Char) : cutAcronym capitals name =
      marks isAcronymCut (capitals.reverse ++ name) := by
  fun_induction cutAcronym capitals name with
  | case1 capitals =>
      rw [List.append_nil]
      cases capitals with
      | nil => rfl
      | cons last capitals =>
          obtain ⟨own, others⟩ := List.forall_mem_cons.mp upper
          rw [List.reverse_cons, marks_acronymCut_capitals (by simpa using others) own,
            List.head?_nil,
            Option.any_none, Bool.and_false, if_neg Bool.false_ne_true, List.append_nil]
          rfl
  | case2 capitals character rest capital induction =>
      rw [induction (List.forall_mem_cons.mpr ⟨capital, upper⟩), List.reverse_cons,
        List.append_assoc]
      rfl
  | case3 character rest other last earlier capitals lower induction =>
      rw [marks_acronymCut_reverse upper (Bool.eq_false_iff.mpr other), lower,
        if_pos rfl, induction nofun,
        List.append_assoc]
      rfl
  | case4 character rest other last earlier capitals small induction =>
      rw [marks_acronymCut_reverse upper (Bool.eq_false_iff.mpr other),
        if_neg small, induction nofun,
        List.append_nil, List.reverse_cons (a := last), List.append_assoc]
      rfl
  | case5 character rest other capitals few induction =>
      have none := Bool.eq_false_iff.mpr other
      rw [induction nofun]
      match capitals, few with
      | [], _ => exact (marks_acronymCut_of_not_upper none rest).symm
      | [last], _ => exact (marks_acronymCut_pair none last rest).symm
      | last :: earlier :: capitals, few => exact absurd rfl (few last earlier capitals)

/-- A cut of either kind is a cut, and cutting for the second kind leaves the cuts of the first
alone. -/
theorem marks_acronymCut_marks (name : List Char) :
    marks isAcronymCut (marks isCapitalCut name) = marks isCut name := by
  fun_induction marks isCapitalCut name with
  | case1 left right rest cut induction =>
      have small := (Bool.and_eq_true_iff.mp cut).1
      have whole : isCut left right rest.head? = true := Bool.or_eq_true_iff.mpr (.inl cut)
      rw [marks_acronymCut_of_not_upper (not_upper_of_isSmall small),
        marks_acronymCut_of_not_upper (by decide), induction, marks, if_pos whole]
  | case2 left right rest uncut induction =>
      have whole : isCut left right rest.head? = isAcronymCut left right rest.head? :=
        (congrArg (· || _) (Bool.eq_false_iff.mpr uncut)).trans (Bool.false_or _)
      rw [marks, whole, ← induction]
      cases upper : isUpper right with
      | true =>
          have next : (marks isCapitalCut rest).head? = rest.head? := head?_marks rest
          rw [marks_capitalCut_of_isUpper upper, marks, next]
      | false =>
          have settled (next : Option Char) : isAcronymCut left right next = false := by
            rw [isAcronymCut, upper, Bool.and_false, Bool.false_and]
          obtain ⟨behind, kept⟩ :=
            List.head?_eq_some_iff.mp (@head?_marks isCapitalCut (right :: rest))
          rw [kept, marks, settled, settled, if_neg Bool.false_ne_true]
  | case3 name short =>
      rw [marks, marks]
      · exact short
      · exact short

end Marks

/-! ## Words -/

theorem cutAcronym_cutBeforeCapital (name : List Char) :
    cutAcronym [] (cutBeforeCapital name) = joinWith ['_'] (cutPieces name) := by
  rw [cutAcronym_eq (List.forall_mem_nil _),
    cutBeforeCapital_eq, ← marks_isCut_eq, ← marks_acronymCut_marks]
  rfl

theorem stretches_wordsJoined (name : List Char) : stretches (wordsJoined name) = words name := by
  rw [wordsJoined, stretches_trimUnderscores, stretches_collapse, stretches_replaceOthers,
    cutAcronym_cutBeforeCapital, stretches_lowercase_joinWith, words]

/-- What naming makes of a name are its words. -/
theorem wordsJoined_eq (name : List Char) : wordsJoined name = joinWith ['_'] (words name) := by
  rw [← stretches_wordsJoined]
  by_cases filled : wordsJoined name = []
  · rw [filled]
    rfl
  · obtain ⟨stretch, others, found, joined⟩ := (isCore_wordsJoined filled).exists_stretches
    rw [found, joined]

theorem isSmall_of_toNat (bounds : 0x30 ≤ character.toNat ∧ character.toNat ≤ 0x39 ∨
    0x61 ≤ character.toNat ∧ character.toNat ≤ 0x7A) : isSmall character = true := by
  simp only [isSmall, isLower, isDigit, Bool.or_eq_true, Bool.and_eq_true, decide_eq_true_eq]
  exact bounds.symm.imp (fun both => ⟨UInt32.le_iff_toNat_le.mpr both.1,
    UInt32.le_iff_toNat_le.mpr both.2⟩)
    fun both => ⟨UInt32.le_iff_toNat_le.mpr both.1, UInt32.le_iff_toNat_le.mpr both.2⟩

theorem smallForm_ne_nil (character : Char) : smallForm character ≠ [] := by
  rcases Text.smallForm_cases character with ⟨-, own⟩ | lower | dotted | ⟨code, -, other⟩
  · exact own ▸ List.cons_ne_nil _ _
  · exact lower ▸ List.cons_ne_nil _ _
  · exact dotted ▸ List.cons_ne_nil _ _
  · exact other ▸ List.cons_ne_nil _ _

namespace IsSeparator

/-- No letter or digit of ASCII is a separator. -/
theorem apart (separates : IsSeparator separator) :
    isSmall separator = false ∧ isUpper separator = false := by
  have folded (ascii : separator.toNat < 0x80) : isSmall separator.toLower = false := by
    refine separates _ ?_
    rw [smallForm, if_pos ascii]
    exact List.mem_singleton_self _
  constructor
  · refine Bool.eq_false_iff.mpr fun small => ?_
    have bounds := toNat_of_isSmall small
    rcases Text.toLower_cases separator with ⟨least, most, -⟩ | ⟨-, same⟩
    · omega
    · have other := folded (by omega)
      rw [same, small] at other
      contradiction
  · refine Bool.eq_false_iff.mpr fun upper => ?_
    rcases Text.toLower_cases separator with ⟨least, most, code⟩ | ⟨uncapped, -⟩
    · have other := folded (by omega)
      rw [isSmall_of_toNat (by omega)] at other
      contradiction
    · exact isUpper_iff.mp upper uncapped

/-- No name is cut beside a separator. -/
theorem marks_append_cons (separates : IsSeparator separator) (front back : List Char) :
    marks isCut (front ++ separator :: back) = marks isCut front ++
      separator :: marks isCut back := by
  obtain ⟨small, upper⟩ := separates.apart
  have lower : isLower separator = false := (Bool.or_eq_false_iff.mp small).1
  have behind (rest : List Char) : marks isCut (separator :: rest) =
    separator :: marks isCut rest :=
    marks_cons_of_uncut (fun _ _ => by simp [isCut, small, upper]) rest
  have before (left : Char) (rest : List Char) :
      marks isCut (left :: separator :: rest) = left :: marks isCut (separator :: rest) := by
    rw [marks, isCut, upper]
    simp
  have alike (left right : Char) (rest : List Char) :
      isCut left right (rest ++ separator :: back).head? = isCut left right rest.head? := by
    cases rest with
    | nil => simp [isCut, lower]
    | cons next rest => rfl
  fun_induction marks isCut front with
  | case1 left right rest cut induction =>
      rw [List.cons_append, List.cons_append, marks, alike,
        if_pos cut, ← List.cons_append, induction]
      rfl
  | case2 left right rest uncut induction =>
      rw [List.cons_append, List.cons_append, marks, alike,
        if_neg uncut, ← List.cons_append, induction]
      rfl
  | case3 name short =>
      match name, short with
      | [], _ => exact behind back
      | [left], _ => exact (before left back).trans (congrArg (left :: ·) (behind back))
      | left :: right :: rest, short => exact absurd rfl (short left right rest)

end IsSeparator

theorem words_eq_stretches (name : List Char) :
    words name = stretches (masked (lowercase (marks isCut name))) := by
  rw [stretches_masked, marks_isCut_eq, stretches_lowercase_joinWith, words]

/-- A separator parts the words in front of it from those behind. -/
theorem words_append_cons (separates : IsSeparator separator) (front back : List Char) :
    words (front ++ separator :: back) = words front ++ words back := by
  have small : masked (lowercase [separator]) = masked (smallForm separator) :=
    (masked_lowerFrom [] [separator]).trans (List.append_nil _)
  rw [words_eq_stretches, separates.marks_append_cons, ← List.singleton_append,
    masked_lowercase_append, masked_lowercase_append, small, stretches_append_append]
  · rw [words_eq_stretches, words_eq_stretches]
  · exact fun none => smallForm_ne_nil separator (List.map_eq_nil_iff.mp none)
  · refine List.forall_mem_map.mpr fun other member => ?_
    rw [separates other member, if_neg Bool.false_ne_true]
    decide

@[simp] theorem words_nil : words [] = [] := rfl

theorem words_gap_append {gap : List Char} (separate : ∀ other ∈ gap, IsSeparator other)
    (back : List Char) : words (gap ++ back) = words back := by
  induction gap with
  | nil => rfl
  | cons first gap induction =>
      obtain ⟨own, others⟩ := List.forall_mem_cons.mp separate
      exact (words_append_cons own [] (gap ++ back)).trans (induction others)

/-- However many separators there are between two parts of a name, its words are those of the
parts. -/
theorem words_append_gap_append {gap : List Char} (something : gap ≠ [])
    (separate : ∀ other ∈ gap, IsSeparator other) (front back : List Char) :
    words (front ++ gap ++ back) = words front ++ words back := by
  obtain ⟨first, gap, rfl⟩ := List.exists_cons_of_ne_nil something
  obtain ⟨own, others⟩ := List.forall_mem_cons.mp separate
  rw [List.append_assoc, List.cons_append, words_append_cons own, words_gap_append others]

theorem words_append_gap {gap : List Char} (separate : ∀ other ∈ gap, IsSeparator other)
    (front : List Char) : words (front ++ gap) = words front := by
  cases gap with
  | nil => rw [List.append_nil]
  | cons first gap =>
      have parted := words_append_gap_append (List.cons_ne_nil first gap) separate front []
      rwa [List.append_nil, words_nil, List.append_nil] at parted

theorem argumentName_congr {left right : String} (same : words left.toList = words right.toList) :
    argumentName left = argumentName right := by
  rw [← String.toList_inj, toList_argumentName, toList_argumentName, wordsJoined_eq,
    wordsJoined_eq, same]

/-- Separators at the ends of a name do not matter. -/
theorem argumentName_between {front back : String} (before : Separates front)
    (behind : Separates back)
    (name : String) : argumentName (front ++ name ++ back) = argumentName name := by
  refine argumentName_congr ?_
  rw [String.toList_append, String.toList_append, words_append_gap behind, words_gap_append before]

/-- A name is named by its words, joined by single underscores and repaired. So neither separators
at its ends matter nor how many of them stand between two parts, nor which. -/
theorem argumentName_words (name : String) :
    (argumentName name).toList = marked (nameOrDefault (joinWith ['_'] (words name.toList))) ∧
      (∀ front back : String, Separates front → Separates back →
        argumentName (front ++ name ++ back) = argumentName name) ∧
      ∀ gap other rest : String, gap ≠ "" → Separates gap → other ≠ "" → Separates other →
        argumentName (name ++ gap ++ rest) = argumentName (name ++ other ++ rest) := by
  refine ⟨?_, fun front back before behind => argumentName_between before behind name, ?_⟩
  · rw [toList_argumentName, wordsJoined_eq]
  · intro gap other rest some separate more alike
    refine argumentName_congr ?_
    have filled {text : String} (something : text ≠ "") : text.toList ≠ [] :=
      fun none => something (String.toList_eq_nil_iff.mp none)
    simp only [String.toList_append]
    rw [words_append_gap_append (filled some) separate, words_append_gap_append (filled more) alike]

theorem argumentName_words_getHTTPResponse :
    (argumentName "getHTTPResponse2ID").toList = "get_http_response2_id".toList ∧
      argumentName ("--" ++ "getHTTPResponse2ID" ++ "é") = argumentName "getHTTPResponse2ID" ∧
      argumentName ("getHTTPResponse2ID" ++ " (" ++ "İd") =
        argumentName ("getHTTPResponse2ID" ++ "_" ++ "İd") := by
  obtain ⟨named, ends, between⟩ := argumentName_words "getHTTPResponse2ID"
  refine ⟨named.trans (by decide), ends "--" "é" (by decide) (by decide), ?_⟩
  exact between " (" "_" "İd" (by decide) (by decide) (by decide) (by decide)

/-- The underscore that keeps a function's name apart from the names of its module is none of its
words. -/
theorem argumentName_functionName (operationId : String) :
    argumentName (functionName operationId) = argumentName operationId := by
  have settled : argumentName (argumentName operationId) = argumentName operationId :=
    argumentName_eq_self (isNormal_argumentName operationId)
  unfold functionName
  dsimp only
  split
  · have trimmed := @argumentName_between "" "_" (by decide) (by decide) (argumentName operationId)
    rw [String.empty_append] at trimmed
    rw [trimmed, settled]
  · exact settled

/-- Two operations have one function name just where their identifiers have one argument name, and
the name of a function is named as it is. -/
theorem functionName_eq_iff_argumentName_eq (one other : String) :
    (functionName one = functionName other ↔ argumentName one = argumentName other) ∧
      functionName (functionName one) = functionName one := by
  refine ⟨⟨fun same => ?_, fun same => ?_⟩, ?_⟩
  · rw [← argumentName_functionName one, same, argumentName_functionName]
  · rw [functionName, functionName, same]
  · rw [functionName, argumentName_functionName, functionName]

end ApiCompiler.Naming
