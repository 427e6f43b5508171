import Transclude.Yaml.Cursor

/-! # The forms that a content may take

`Form.of` looks a content over once and says which styles can write it.  What
can always be done is double quotes. -/

namespace Transclude.Yaml

/-- Which styles can write a content. -/
structure Form where
  empty : Bool
  /-- The content holds a line break. -/
  broken : Bool
  plainInFlow : Bool
  plainInBlock : Bool
  single : Bool
  block : Bool
deriving Repr, DecidableEq

/-- A code point is the given character. -/
def isChar (n : Nat) (c : Char) : Bool := n = c.toNat

/-- A code point is one of the characters of a word. -/
def isOneOf (n : Nat) (word : String) : Bool := word.toList.any (isChar n)

/-- The line breaks of a content. -/
def breaks (n : Nat) : Bool := isChar n '\n' || n = 0x85 || n = 0x2028 || n = 0x2029

/-- A blank, a line break or a NUL. -/
def parts (n : Nat) : Bool := breaks n || isOneOf n "\x00 \t\r"

/-- The code points that only an escape can write. -/
def isSpecial (n : Nat) : Bool :=
  !(isChar n '\n' || (0x20 ≤ n && n ≤ 0x7E) || n = 0x85
    || ((0xA0 ≤ n && n ≤ 0xD7FF) || (0xE000 ≤ n && n ≤ 0xFFFD) || (0x10000 ≤ n && n < 0x10FFFF))
      && n ≠ 0xFEFF)

/-- The marks of the two kinds of collection that a content holds: first in flow, then in block.
    `start` says that the content starts here, `gap` that a blank or break stands before. -/
def marksFrom (start gap : Bool) : Content → Bool × Bool
  | [] => (false, false)
  | n :: rest =>
    let (inFlow, inBlock) := marksFrom false (parts n) rest
    let gapBehind := match rest with
      | [] => true
      | m :: _ => parts m
    if start then
      let leading := isOneOf n "#,[]\x7b\x7d&*!|>'\"%@`"
      let question := isOneOf n "?:"
      let hyphen := isChar n '-' && gapBehind
      (inFlow || leading || question || hyphen,
        inBlock || leading || (question && gapBehind) || hyphen)
    else
      let colon := isChar n ':'
      let comment := isChar n '#' && gap
      (inFlow || isOneOf n ",?[]\x7b\x7d" || colon || comment,
        inBlock || (colon && gapBehind) || comment)

/-- Somewhere in a content a code point with property `p` is followed by one with property `q`. -/
def followed (p q : Nat → Bool) : Content → Bool
  | a :: b :: rest => (p a && q b) || followed p q (b :: rest)
  | _ => false

/-- The content starts like a document marker. -/
def startsLikeMarker (content : Content) : Bool :=
  content.take 3 = Content.ofChars ['-', '-', '-']
    || content.take 3 = Content.ofChars ['.', '.', '.']

/-- The styles that can write a content. -/
def Form.of (content : Content) : Form :=
  match content with
  | [] =>
    { empty := true, broken := false, plainInFlow := false, plainInBlock := true, single := true,
      block := false }
  | first :: _ =>
    let last := content.getLast?.getD first
    let space := fun n => isChar n ' '
    let broken := content.any breaks
    let (inFlow, inBlock) := marksFrom true true content
    let marker := startsLikeMarker content
    let edges := space first || breaks first || space last || breaks last
    -- A line that starts with a space, and one that ends with a space.
    let indented := followed breaks space content
    let trailing := followed space breaks content
    let special := content.any isSpecial || trailing
    let plain := !edges && !indented && !special && !broken && !marker
    { empty := false, broken
      plainInFlow := plain && !inFlow
      plainInBlock := plain && !inBlock
      single := !indented && !special
      block := !space last && !special }

end Transclude.Yaml
