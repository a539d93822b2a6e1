/-!
# Blank characters

The characters that count as blank at the ends of a text, and trimming by them.
-/

namespace ApiCompiler.Text

/-- The white space and separator controls that trimming removes. -/
def isBlank (character : Char) : Bool :=
  let code := character.toNat
  (0x09 ≤ code && code ≤ 0x0D) || (0x1C ≤ code && code ≤ 0x20) || code == 0x85 || code == 0xA0 ||
    code == 0x1680 || (0x2000 ≤ code && code ≤ 0x200A) || code == 0x2028 || code == 0x2029 ||
    code == 0x202F || code == 0x205F || code == 0x3000

/-- Drops what satisfies a test at both ends. -/
def trimBy (test : Char → Bool) (text : List Char) : List Char :=
  ((text.dropWhile test).reverse.dropWhile test).reverse

/-- Drops the blanks at both ends. -/
def trim (text : List Char) : List Char :=
  trimBy isBlank text

/-- A text of blanks alone. -/
def isAllBlank (text : String) : Bool :=
  text.toList.all isBlank

theorem trim_subset (text : List Char) : trim text ⊆ text := by
  intro character member
  rw [trim, trimBy, List.mem_reverse] at member
  exact List.dropWhile_sublist _ |>.subset
    (List.mem_reverse.mp ((List.dropWhile_sublist _).subset member))

end ApiCompiler.Text
