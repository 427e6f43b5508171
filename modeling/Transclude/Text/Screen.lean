import Transclude.Text.Line

/-! # Text on a screen

A message is printed line by line.  Bell, backspace and the characters that move
a printer up or back are left out, a tab becomes blanks up to the next of its
stops, and a backslash in front of a bracket is taken for an escape unless the
bracket opens a word that could be markup. -/

namespace Transclude.Text

/-- The characters that are not printed. -/
def isUnprinted (c : Char) : Bool := ['\x07', '\x08', '\x0b', '\x0c', '\r'].contains c

/-- The columns from one tab stop to the next. -/
def tabWidth : Nat := 8

/-- A line from `column` on, with blanks in place of its tabs. -/
def expandTabs (column : Nat) : List Char → List Char
  | [] => []
  | c :: cs =>
    if c = '\t' then
      let width := tabWidth - column % tabWidth
      List.replicate width ' ' ++ expandTabs (column + width) cs
    else c :: expandTabs (column + 1) cs

/-- A text starts with a bracketed word that could be markup. -/
def startsMarkup : List Char → Bool
  | '[' :: c :: cs =>
    (('a' ≤ c && c ≤ 'z') || c = '#' || c = '/' || c = '@')
      && cs.find? (fun c => c = '[' || c = ']') = some ']'
  | _ => false

/-- A text without the backslashes in front of brackets that open no markup. -/
def dropEscapes : List Char → List Char
  | [] => []
  | c :: cs =>
    if c = '\\' && cs.head? = some '[' && !startsMarkup cs then dropEscapes cs
    else c :: dropEscapes cs

/-- The lines in which a text is printed. -/
def screenLines (text : String) : List String :=
  let shown := dropEscapes (text.toList.filter fun c => !isUnprinted c)
  (cut '\n' shown).map fun line => String.ofList (expandTabs 0 line)

end Transclude.Text
