import ApiCompiler.Proofs.Wire.Server
import Mathlib.Data.List.TakeDrop

/-!
# Paths below a base

A path without dots among its pieces stays as it is when it is put in canonical form. So an address
without dots that is put below a base has a path that starts with the path of the base. Texts
without the characters that give the parts of an address their ends make such an address, however
they are put together with slashes.
-/

namespace ApiCompiler.Wire

open Text

namespace Url

/-- A piece of a path that is no dot and no two dots. -/
def IsPiece (piece : List Char) : Prop :=
  piece ≠ ['.'] ∧ piece ≠ ['.', '.']

/-- A path without dots among its pieces. -/
def Undotted (path : List Char) : Prop :=
  ∀ piece ∈ splitAt '/' path, IsPiece piece

instance (piece : List Char) : Decidable (IsPiece piece) :=
  inferInstanceAs (Decidable (_ ∧ _))

instance (path : List Char) : Decidable (Undotted path) :=
  inferInstanceAs (Decidable (∀ piece ∈ splitAt '/' path, IsPiece piece))

theorem undotted_append_cons {front back : List Char} :
    Undotted (front ++ '/' :: back) ↔ Undotted front ∧ Undotted back := by
  rw [Undotted, splitAt_append_cons]
  exact List.forall_mem_append

theorem undotted_nil : Undotted [] := by decide

theorem undotted_cons_slash {path : List Char} : Undotted ('/' :: path) ↔ Undotted path := by
  have cut : Undotted ([] ++ '/' :: path) ↔ Undotted [] ∧ Undotted path := undotted_append_cons
  exact cut.trans (and_iff_right undotted_nil)

theorem undotted_dropWhile {path : List Char} (undotted : Undotted path) :
    Undotted (path.dropWhile (· == '/')) := by
  induction path with
  | nil => exact undotted
  | cons character path induction =>
      rw [List.dropWhile_cons]
      split
      · rename_i slash
        rw [beq_iff_eq.mp slash] at undotted
        have cut : Undotted ([] ++ '/' :: path) := undotted
        exact induction (undotted_append_cons.mp cut).2
      · exact undotted

theorem resolveDots_of_isPiece {kept pieces : List (List Char)}
    (plain : ∀ piece ∈ pieces, IsPiece piece) :
    resolveDots kept pieces = kept.reverse ++ pieces := by
  induction pieces generalizing kept with
  | nil => rw [resolveDots, List.append_nil]
  | cons piece pieces induction =>
      obtain ⟨first, others⟩ := List.forall_mem_cons.mp plain
      rw [resolveDots, if_neg (by simpa using first.1), if_neg (by simpa using first.2),
        induction others, List.reverse_cons, List.append_assoc, List.singleton_append]

/-- A path without dots is left alone. -/
theorem normalizePath_eq_self {path : List Char} (undotted : Undotted path) :
    normalizePath path = path := by
  rw [normalizePath, resolveDots_of_isPiece undotted, List.reverse_nil, List.nil_append,
    joinWith_splitAt]

/-- Whatever is kept of the pieces of a path was kept before or is a piece that is no dots. -/
theorem of_mem_resolveDots {test : List Char → Prop} {kept pieces : List (List Char)}
    (before : ∀ piece ∈ kept, test piece) (each : ∀ piece ∈ pieces, IsPiece piece → test piece) :
    ∀ piece ∈ resolveDots kept pieces, test piece := by
  fun_induction resolveDots kept pieces with
  | case1 kept => exact fun piece member => before piece (List.mem_reverse.mp member)
  | case2 kept piece pieces dot induction =>
      exact induction before (List.forall_mem_cons.mp each).2
  | case3 kept piece pieces single double induction =>
      refine induction (fun piece member => ?_) (List.forall_mem_cons.mp each).2
      split at member
      · exact before piece member
      · exact before piece (List.mem_of_mem_drop member)
  | case4 kept piece pieces single double induction =>
      obtain ⟨first, others⟩ := List.forall_mem_cons.mp each
      have plain : IsPiece piece := ⟨by simpa using single, by simpa using double⟩
      exact induction (List.forall_mem_cons.mpr ⟨first plain, before⟩) others

theorem undotted_normalizePath (path : List Char) : Undotted (normalizePath path) := by
  have none {test : List Char → Prop} : ∀ piece ∈ [], test piece :=
    fun _ member => absurd member List.not_mem_nil
  by_cases all : resolveDots [] (splitAt '/' path) = []
  · rw [normalizePath, all]
    decide
  · rw [normalizePath, Undotted, splitAt_joinWith all]
    · exact of_mem_resolveDots none fun _ _ plain => plain
    · exact of_mem_resolveDots none fun piece member _ =>
        separator_not_mem_of_mem_splitAt piece member

theorem undotted_percentEncode {path : List Char} (undotted : Undotted path) :
    Undotted (percentEncode isPathSafe path) := by
  rw [Undotted, splitAt_percentEncode (by decide)]
  refine List.forall_mem_map.mpr fun piece member => ?_
  obtain ⟨single, double⟩ := undotted piece member
  -- Dots have no escapes, so a piece that is written as dots is dots.
  refine ⟨fun dot => single ?_, fun dots => double ?_⟩
  · rw [← dot]
    exact (percentEncode_eq_self_of_not_mem (by rw [dot]; decide)).symm
  · rw [← dots]
    exact (percentEncode_eq_self_of_not_mem (by rw [dots]; decide)).symm

/-- A path without dots, in the characters of paths. -/
structure IsPath (path : List Char) : Prop where
  undotted : Undotted path
  safe : ∀ character ∈ path, isPathSafe character = true

theorem IsPath.append_cons {front back : List Char} (first : IsPath front) (second : IsPath back) :
    IsPath (front ++ '/' :: back) :=
  ⟨undotted_append_cons.mpr ⟨first.undotted, second.undotted⟩,
    List.forall_mem_append.mpr ⟨first.safe, List.forall_mem_cons.mpr ⟨by decide, second.safe⟩⟩⟩

theorem IsPath.front {front back : List Char}
    (whole : IsPath (front ++ '/' :: back)) : IsPath front :=
  ⟨(undotted_append_cons.mp whole.undotted).1, fun character member =>
    whole.safe character (List.mem_append_left _ member)⟩

theorem IsPath.nil : IsPath [] :=
  ⟨by decide, fun _ member => absurd member List.not_mem_nil⟩

theorem isPathSafe_of_ofParts {parts : Parts} {url : Url} (success : ofParts parts = .ok url) :
    ∀ character ∈ url.path, isPathSafe character = true := by
  obtain ⟨-, -, -, path, -⟩ := fields_of_ofParts success
  rw [path]
  exact isPathSafe_of_mem_percentEncode _

theorem isPathSafe_of_ofText {text : String} {url : Url} (success : ofText text = .ok url) :
    ∀ character ∈ url.path, isPathSafe character = true :=
  isPathSafe_of_ofParts (ofParts_split_of_ofText success)

section Schemed

variable {parts : Parts} {url : Url} (success : ofParts parts = .ok url) (schemed : url.scheme ≠ [])
include success schemed

/-- Behind a scheme the dots of a path are resolved. -/
theorem path_of_ofParts : url.path = percentEncode isPathSafe (normalizePath parts.path) := by
  obtain ⟨-, -, -, path, -⟩ := fields_of_ofParts success
  rw [path, if_pos]
  rw [Bool.or_eq_true, Bool.not_eq_true', List.isEmpty_eq_false_iff]
  exact .inl schemed

theorem isPath_of_ofParts : IsPath url.path := by
  refine ⟨?_, isPathSafe_of_ofParts success⟩
  rw [path_of_ofParts success schemed]
  exact undotted_percentEncode (undotted_normalizePath parts.path)

/-- A path in canonical form stays. -/
theorem path_eq_of_isPath (canonical : IsPath parts.path) : url.path = parts.path := by
  rw [path_of_ofParts success schemed, normalizePath_eq_self canonical.undotted,
    percentEncode_eq_self canonical.safe]

end Schemed

/-- An address with a scheme, in canonical form. -/
structure IsServed (url : Url) : Prop extends IsCanonical url where
  schemed : url.scheme ≠ []
  path : IsPath url.path

theorem isServed_of_isAbsolute {text : String} {url : Url} (success : ofText text = .ok url)
    (absolute : url.isAbsolute = true) : url.IsServed := by
  rw [isAbsolute, Bool.and_eq_true, Bool.not_eq_true', List.isEmpty_eq_false_iff] at absolute
  refine ⟨isCanonical_of_ofText success, absolute.1, ?_⟩
  exact isPath_of_ofParts (ofParts_split_of_ofText success) absolute.1

section Served

variable {url again : Url} (served : url.IsServed)
include served

/-- With another path and query an address stays with its server. -/
theorem IsServed.of_ofParts {path : List Char} {query : Option (List Char)}
    (success : ofParts { url.parts with path, query } = .ok again) :
    again.IsServed ∧ SameServer again url ∧ (IsPath path → again.path = path) := by
  have same := sameServer_of_ofParts served.toIsCanonical success
  have schemed : again.scheme ≠ [] := by
    rw [same.scheme]
    exact served.schemed
  exact ⟨⟨isCanonical_of_ofParts success, schemed, isPath_of_ofParts success schemed⟩, same,
    path_eq_of_isPath success schemed⟩

theorem IsServed.of_withQuery {query : Option (List Char)}
    (success : url.withQuery query = .ok again) :
    again.IsServed ∧ SameServer again url ∧ again.path = url.path := by
  have kept : ofParts { url.parts with path := url.path, query } = .ok again := success
  obtain ⟨servedAgain, same, path⟩ := served.of_ofParts kept
  exact ⟨servedAgain, same, path served.path⟩

end Served

/-- The path in front of a query. -/
def targetPath (url : Url) : List Char :=
  if url.path.isEmpty then ['/'] else url.path

/-- A base has a path that ends in a slash, unless a query stands behind it. -/
def IsBase (url : Url) : Prop :=
  url.query = none → ∃ front, url.targetPath = front ++ ['/']

theorem target_eq (url : Url) : url.target = url.targetPath ++ marked '?' url.query := rfl

/-- Slashes in front of a query are slashes in front of a path. -/
theorem dropWhile_target (url : Url) : url.target.dropWhile (· == '/') =
    url.path.dropWhile (· == '/') ++ marked '?' url.query := by
  have asks : (marked '?' url.query).dropWhile (· == '/') = marked '?' url.query := by
    cases url.query <;> simp [marked]
  rw [target_eq, targetPath]
  split
  · rename_i none
    rw [List.isEmpty_iff.mp none, List.singleton_append,
      List.dropWhile_cons_of_pos (by decide), asks]
    rfl
  · rw [List.dropWhile_append, asks]
    split
    · rename_i none
      rw [List.isEmpty_iff.mp none, List.nil_append]
    · rfl

theorem path_prefix_targetPath (url : Url) : url.path <+: url.targetPath := by
  unfold targetPath
  split
  · rename_i none
    rw [List.isEmpty_iff.mp none]
    exact List.nil_prefix
  · exact List.prefix_refl _

theorem isPath_targetPath {url : Url} (path : IsPath url.path) : IsPath url.targetPath := by
  unfold targetPath
  split
  · exact IsPath.nil.append_cons IsPath.nil
  · exact path

theorem IsPath.question_not_mem {path : List Char} (canonical : IsPath path) : '?' ∉ path :=
  fun member => absurd (canonical.safe '?' member) (by decide)

theorem withTarget_append {url : Url} {path : List Char} (plain : '?' ∉ path)
    (query : Option (List Char)) :
    url.withTarget (path ++ marked '?' query) = ofParts { url.parts with path, query } := by
  have front : (path ++ marked '?' query).takeWhile (· != '?') = path := by
    rw [takeWhile_append_of_not_mem plain]
    cases query <;> simp [marked]
  simp only [withTarget, front, List.drop_left]
  cases query <;> rfl

/-- What a base address becomes stays with its server, and its path starts with the path of the
address. -/
theorem IsServed.of_asBase {url start : Url} (served : url.IsServed)
    (success : url.asBase = .ok start) :
    start.IsServed ∧ SameServer start url ∧ start.IsBase ∧ url.path <+: start.path := by
  have path := isPath_targetPath served.path
  unfold asBase at success
  split at success
  · rename_i ended
    obtain rfl := Except.ok.inj success
    refine ⟨served, .refl url, fun none => ?_, List.prefix_refl _⟩
    rw [target_eq, none, marked, List.append_nil, beq_iff_eq] at ended
    exact List.getLast?_eq_some_iff.mp ended
  · rw [target_eq] at success
    cases asked : url.query with
    | none =>
        have slashed : IsPath (url.targetPath ++ ['/']) := path.append_cons IsPath.nil
        have target : url.targetPath ++ marked '?' none ++ ['/'] =
            (url.targetPath ++ ['/']) ++ marked '?' none := by simp [marked]
        rw [asked, target, withTarget_append slashed.question_not_mem] at success
        obtain ⟨servedStart, same, kept⟩ := served.of_ofParts success
        have written := kept slashed
        refine ⟨servedStart, same, fun _ => ⟨url.targetPath, ?_⟩, ?_⟩
        · rw [targetPath, written, if_neg (by simp)]
        · rw [written]
          exact (path_prefix_targetPath url).trans (List.prefix_append ..)
    | some query =>
        have target : url.targetPath ++ marked '?' (some query) ++ ['/'] =
            url.targetPath ++ marked '?' (some (query ++ ['/'])) := by simp [marked]
        rw [asked, target, withTarget_append path.question_not_mem] at success
        obtain ⟨servedStart, same, kept⟩ := served.of_ofParts success
        obtain ⟨-, -, -, -, asks⟩ := fields_of_ofParts success
        refine ⟨servedStart, same, fun none => ?_, ?_⟩
        · rw [none] at asks
          contradiction
        · rw [kept path]
          exact path_prefix_targetPath url

/-- An address that is not absolute stays with the server of its base, and without dots below its
path. -/
theorem IsServed.of_below {start address again : Url} (served : start.IsServed)
    (based : start.IsBase)
    (relative : address.isAbsolute = false)
    (safe : ∀ character ∈ address.path, isPathSafe character = true)
    (success : start.below address = .ok again) :
    again.IsServed ∧ SameServer again start ∧
      (Undotted address.path → start.path <+: again.path) := by
  have path := isPath_targetPath served.path
  have safeBehind : ∀ character ∈ address.path.dropWhile (· == '/'), isPathSafe character = true :=
    fun character member => safe character (List.dropWhile_subset _ member)
  rw [below, relative, if_neg Bool.false_ne_true, target_eq, dropWhile_target] at success
  cases asked : start.query with
  | none =>
      obtain ⟨front, slashed⟩ := based asked
      have plain : '?' ∉ start.targetPath ++ address.path.dropWhile (· == '/') := by
        rw [List.mem_append, not_or]
        exact ⟨path.question_not_mem, fun member => absurd (safeBehind '?' member) (by decide)⟩
      rw [asked, marked, List.append_nil, ← List.append_assoc, withTarget_append plain] at success
      obtain ⟨servedAgain, same, kept⟩ := served.of_ofParts success
      refine ⟨servedAgain, same, fun undotted => ?_⟩
      have first : IsPath front := (slashed ▸ path).front
      have whole : IsPath (start.targetPath ++ address.path.dropWhile (· == '/')) := by
        rw [slashed, ← List.append_cons]
        exact first.append_cons ⟨undotted_dropWhile undotted, safeBehind⟩
      rw [kept whole]
      exact (path_prefix_targetPath start).trans (List.prefix_append ..)
  | some query =>
      have target (rest : List Char) : start.targetPath ++ marked '?' (some query) ++ rest =
          start.targetPath ++ marked '?' (some (query ++ rest)) := by simp [marked]
      rw [asked, target, withTarget_append path.question_not_mem] at success
      obtain ⟨servedAgain, same, kept⟩ := served.of_ofParts success
      refine ⟨servedAgain, same, fun _ => ?_⟩
      rw [kept path]
      exact path_prefix_targetPath start

/-- The characters that end a scheme, an authority or a path. -/
def endings : List Char := [':', '?', '#']

variable {text : List Char}

theorem takeScheme_of_not_mem (absent : ':' ∉ text) : takeScheme text = ([], text) := by
  unfold takeScheme
  dsimp only
  split
  · rename_i rest found
    exact absurd (List.mem_of_mem_drop (found ▸ List.mem_cons_self)) absent
  · rfl

theorem takeAuthority_subset (text : List Char) : (takeAuthority text).2 ⊆ text := by
  fun_cases takeAuthority text with
  | case1 rest =>
      rw [List.span_eq_takeWhile_dropWhile]
      intro character member
      exact List.mem_cons_of_mem _ (List.mem_cons_of_mem _ (List.dropWhile_subset _ member))
  | case2 => exact List.Subset.refl _

/-- Where no other character ends an authority, a slash does, and what is behind has dots among its
pieces only where the whole has them. -/
theorem undotted_takeAuthority (absent : ∀ ending ∈ endings, ending ∉ text)
    (undotted : Undotted text) :
    Undotted (takeAuthority text).2 := by
  fun_cases takeAuthority text with
  | case1 rest =>
      rw [List.span_eq_takeWhile_dropWhile]
      have plain := undotted_cons_slash.mp (undotted_cons_slash.mp undotted)
      have stop := List.head?_dropWhile_not (fun character => !"/?#".toList.contains character) rest
      rw [← List.takeWhile_append_dropWhile (p := fun character => !"/?#".toList.contains character)
        (l := rest)] at plain
      cases behind : rest.dropWhile fun character => !"/?#".toList.contains character with
      | nil => exact undotted_nil
      | cons first others =>
          rw [behind] at plain stop
          have member : first ∈ rest := List.dropWhile_subset _ (behind ▸ List.mem_cons_self)
          have slash : first = '/' := by
            have stops : first ∈ "/?#".toList :=
              List.contains_iff_mem.mp (by rw [← Bool.not_eq_false']; exact stop)
            rcases List.mem_cons.mp stops with same | ending
            · exact same
            · refine absurd ?_ (absent first (List.mem_cons_of_mem _ ending))
              exact List.mem_cons_of_mem _ (List.mem_cons_of_mem _ member)
          rw [slash] at plain ⊢
          exact undotted_cons_slash.mpr (undotted_append_cons.mp plain).2
  | case2 => exact undotted

/-- A text without endings is a path, behind an authority if it begins with two slashes. -/
theorem split_of_not_mem (absent : ∀ ending ∈ endings, ending ∉ text) :
    split text = ⟨[], (takeAuthority text).1, (takeAuthority text).2, none, none⟩ := by
  have kept : ∀ character ∈ (takeAuthority text).2,
      (!"?#".toList.contains character) = true := by
    intro character member
    have held := takeAuthority_subset text member
    rw [Bool.not_eq_true', ← Bool.not_eq_true, List.contains_iff_mem]
    intro ending
    exact absent character (List.mem_cons_of_mem _ ending) held
  simp only [split, takeScheme_of_not_mem (absent ':' List.mem_cons_self),
    List.span_eq_takeWhile_dropWhile, List.takeWhile_eq_self_iff.mpr kept,
    List.dropWhile_eq_nil_iff.mpr kept]

/-- An address that is read from a text without endings or dots has no scheme and no dots. -/
theorem undotted_of_ofText {text : String} {url : Url}
    (absent : ∀ ending ∈ endings, ending ∉ text.toList) (undotted : Undotted text.toList)
    (success : ofText text = .ok url) : url.isAbsolute = false ∧ Undotted url.path := by
  have made := ofParts_split_of_ofText success
  rw [split_of_not_mem absent] at made
  obtain ⟨-, -, scheme, path, -⟩ := fields_of_ofParts made
  refine ⟨by rw [isAbsolute, scheme]; rfl, ?_⟩
  rw [path]
  refine undotted_percentEncode ?_
  split
  · exact undotted_normalizePath _
  · exact undotted_takeAuthority absent undotted

end Url

/-- A text that gives no part of an address its end, and is no dots. -/
def IsPlain (text : String) : Prop :=
  (∀ ending ∈ '/' :: Url.endings, ending ∉ text.toList) ∧ Url.IsPiece text.toList

/-- Plain texts, put together with slashes, make an address without a scheme or dots. -/
theorem undotted_of_isPlain {texts : List String} (plain : ∀ text ∈ texts, IsPlain text) {url : Url}
    (success : Url.ofText (String.intercalate "/" texts) = .ok url) :
    url.isAbsolute = false ∧ Url.Undotted url.path := by
  have pieces : ∀ piece ∈ texts.map String.toList, '/' ∉ piece :=
    List.forall_mem_map.mpr fun text member => (plain text member).1 '/' List.mem_cons_self
  refine Url.undotted_of_ofText (fun ending listed member => ?_) ?_ success
  · rw [toList_intercalate] at member
    rcases mem_joinWith member with ⟨piece, held, inside⟩ | slash
    · obtain ⟨text, given, rfl⟩ := List.mem_map.mp held
      exact (plain text given).1 ending (List.mem_cons_of_mem _ listed) inside
    · rw [List.mem_singleton.mp slash] at listed
      exact absurd listed (by decide)
  · rw [toList_intercalate]
    by_cases none : texts = []
    · rw [none]
      exact Url.undotted_nil
    · rw [Url.Undotted, show "/".toList = ['/'] from rfl,
        splitAt_joinWith (by simpa using none) pieces]
      exact List.forall_mem_map.mpr fun text member => (plain text member).2

end ApiCompiler.Wire
