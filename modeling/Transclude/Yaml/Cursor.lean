import Transclude.Yaml.Token

/-! # The cursor

A cursor is a place in a YAML text: what is left of the text, and how far it is
from the start of the text and of the line.  Behind the end of the text stands
a NUL, which no YAML text holds. -/

namespace Transclude.Yaml

/-- The mark behind the end of a text. -/
def endMark : Char := '\x00'

/-- A line break: `\n`, `\r`, U+0085, U+2028 or U+2029. -/
def isBreak (c : Char) : Bool :=
  c = '\n' || c = '\r' || c.toNat = 0x85 || c.toNat = 0x2028 || c.toNat = 0x2029

/-- A line break or the end of the text. -/
def endsLine (c : Char) : Bool := isBreak c || c = endMark

/-- A space, a line break or the end of the text. -/
def endsWord (c : Char) : Bool := endsLine c || c = ' '

/-- A blank, a line break or the end of the text. -/
def isGap (c : Char) : Bool := endsWord c || c = '\t'

/-- The characters that a YAML text may hold. -/
def isYaml (c : Char) : Bool :=
  let n := c.toNat
  n = 0x9 || n = 0xA || n = 0xD || (0x20 ≤ n && n ≤ 0x7E) || n = 0x85
    || (0xA0 ≤ n && n ≤ 0xD7FF) || (0xE000 ≤ n && n ≤ 0xFFFD) || 0x10000 ≤ n

/-- A letter or digit of ASCII, a hyphen or an underscore: what names are made of. -/
def isNameChar (c : Char) : Bool := c.isAlphanum || c = '-' || c = '_'

/-- The characters that the address in a tag may hold. -/
def isAddressChar (c : Char) : Bool :=
  c.isAlphanum || "-;/?:@&=+$,_.!~*'()[]%".toList.contains c

/-- A digit of a hexadecimal number. -/
def isHexDigit (c : Char) : Bool :=
  c.isDigit || ('a' ≤ c && c ≤ 'f') || ('A' ≤ c && c ≤ 'F')

/-- The value of a hexadecimal digit. -/
def hexDigitValue (c : Char) : Nat :=
  if c.isDigit then c.toNat - 48 else c.toLower.toNat - 87

/-- The number that hexadecimal digits write. -/
def hexNumber (cs : List Char) : Nat := cs.foldl (fun n c => 16 * n + hexDigitValue c) 0

/-- A place in a text. -/
structure Cursor where
  rest : List Char
  index : Nat := 0
  line : Nat := 0
  column : Nat := 0

namespace Cursor

/-- The character at the cursor. -/
def peek (c : Cursor) : Char := c.rest.headD endMark

/-- The character `k` places behind the cursor. -/
def peekAt (c : Cursor) (k : Nat) : Char := c.rest.getD k endMark

/-- The cursor behind the next character.  A carriage return ends a line unless a line feed
    follows it; a byte order mark takes no column. -/
def next (c : Cursor) : Cursor :=
  match c.rest with
  | [] => c
  | ch :: rest =>
    if isBreak ch && !(ch = '\r' && rest.head? = some '\n') then
      ⟨rest, c.index + 1, c.line + 1, 0⟩
    else if ch.toNat = 0xFEFF then ⟨rest, c.index + 1, c.line, c.column⟩
    else ⟨rest, c.index + 1, c.line, c.column + 1⟩

/-- The cursor behind the next `n` characters. -/
def skip (c : Cursor) : Nat → Cursor
  | 0 => c
  | n + 1 => c.next.skip n

/-- The longest run of characters with property `p`, and the cursor behind it. -/
def span (p : Char → Bool) (c : Cursor) : List Char × Cursor :=
  let run := c.rest.takeWhile p
  (run, c.skip run.length)

/-- The cursor behind the longest run of characters with property `p`. -/
def skipWhile (p : Char → Bool) (c : Cursor) : Cursor := (c.span p).2

/-- The cursor behind the spaces. -/
def skipSpaces (c : Cursor) : Cursor := c.skipWhile (· = ' ')

/-- The line break at the cursor, in normal form, and the cursor behind it.  A break is a line
    feed, save that the two separators of Unicode stand for themselves. -/
@[irreducible]
def lineBreak? (c : Cursor) : Option (Char × Cursor) :=
  let ch := c.peek
  if ch = '\r' && c.peekAt 1 = '\n' then some ('\n', c.skip 2)
  else if ch = '\r' || ch = '\n' || ch.toNat = 0x85 then some ('\n', c.next)
  else if isBreak ch then some (ch, c.next)
  else none

/-- A document marker stands at the cursor: `---` or `...`, with a gap behind it. -/
def atMarker (mark : Char) (c : Cursor) : Bool :=
  c.peek = mark && c.peekAt 1 = mark && c.peekAt 2 = mark && isGap (c.peekAt 3)

/-- One of the two document markers stands at the cursor. -/
def atAnyMarker (c : Cursor) : Bool := c.atMarker '-' || c.atMarker '.'

/-- The end of a line that may hold a comment and nothing else, and the cursor behind it. -/
def restOfLine? (c : Cursor) : Option Cursor :=
  let c := c.skipSpaces
  let c := if c.peek = '#' then c.skipWhile (fun ch => !endsLine ch) else c
  if endsLine c.peek then
    match c.lineBreak? with
    | some (_, c) => some c
    | none => some c
  else none

end Cursor

end Transclude.Yaml
