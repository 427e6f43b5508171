/-! # Blank characters

White space in the wide sense: the ASCII blanks, the four information
separators, and the spaces and separators of the Unicode standard.  Directives,
fences and numbers all ignore the same set, so it is fixed here once.

`trim` and its two halves work on character lists; the `String` forms are the
same functions through `String.toList`. -/

namespace Transclude.Text

/-- The blank characters: `\t` to `\r`, U+001C to U+0020, U+0085, and the
    characters of bidirectional class `WS`, `B` or `S` or category `Zs` above. -/
def isBlank (c : Char) : Bool :=
  let n := c.toNat
  (9 ≤ n && n ≤ 13) || (0x1C ≤ n && n ≤ 0x20) || n == 0x85 || n == 0xA0 || n == 0x1680
    || (0x2000 ≤ n && n ≤ 0x200A) || n == 0x2028 || n == 0x2029 || n == 0x202F
    || n == 0x205F || n == 0x3000

/-! ## Trimming character lists -/

/-- Drop the leading blanks. -/
def trimLeft (cs : List Char) : List Char := cs.dropWhile isBlank

/-- Drop the trailing blanks. -/
def trimRight (cs : List Char) : List Char := (cs.reverse.dropWhile isBlank).reverse

/-- Drop the blanks at both ends. -/
def trim (cs : List Char) : List Char := trimRight (trimLeft cs)

/-- The leading blanks themselves. -/
def leadingBlanks (cs : List Char) : List Char := cs.takeWhile isBlank

/-- A text is its leading blanks and the rest. -/
theorem leadingBlanks_append_trimLeft (cs : List Char) : leadingBlanks cs ++ trimLeft cs = cs :=
  List.takeWhile_append_dropWhile

@[simp] theorem trim_nil : trim [] = [] := rfl

/-! ## Trimming strings -/

/-- `s` without the blanks at either end. -/
def stripped (s : String) : String := String.ofList (trim s.toList)

/-- A stripped text is the trimmed characters. -/
@[simp] theorem toList_stripped (s : String) : (stripped s).toList = trim s.toList := by
  simp [stripped]

end Transclude.Text
