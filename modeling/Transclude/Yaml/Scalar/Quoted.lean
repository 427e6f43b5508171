import Transclude.Yaml.Cursor

/-! # Quoted scalars

In single quotes a quote is written twice and nothing else is special.  In
double quotes a backslash starts an escape.  In both, blanks around a line break
are dropped; one break becomes a space, more of them lose the first. -/

namespace Transclude.Yaml

/-- The code point that a one-character escape stands for. -/
def escaped? (c : Char) : Option Nat :=
  [('0', 0x0), ('a', 0x7), ('b', 0x8), ('t', 0x9), ('\t', 0x9), ('n', 0xA), ('v', 0xB),
   ('f', 0xC), ('r', 0xD), ('e', 0x1B), (' ', 0x20), ('"', 0x22), ('\\', 0x5C), ('/', 0x2F),
   ('N', 0x85), ('_', 0xA0), ('L', 0x2028), ('P', 0x2029)].lookup c

/-- The number of hexadecimal digits behind the letter of an escape. -/
def escapeWidth? (c : Char) : Option Nat := [('x', 2), ('u', 4), ('U', 8)].lookup c

/-- The code point with a given number, if there is one. -/
def codePoint (n : Nat) : Except Flaw Nat :=
  if n < 0x110000 then .ok n
  else if n < 0x80000000 then .error (.fault Fault.noCodePoint)
  else .error (.fault Fault.noNumber)

/-- The breaks from the cursor on, blanks between them dropped.  A document marker must not stand
    at the start of a line. -/
def quotedBreaks : Nat → Cursor → Except Flaw (List Char × Cursor)
  | 0, _ => .error .invalid
  | fuel + 1, c =>
    if c.atAnyMarker then .error .invalid
    else
      let c := c.skipWhile fun ch => ch = ' ' || ch = '\t'
      match c.lineBreak? with
      | none => .ok ([], c)
      | some (br, c) => (quotedBreaks fuel c).map fun (brs, c) => (br :: brs, c)

/-- What a line break and the breaks after it stand for. -/
def foldBreaks (br : Char) (brs : List Char) : Content :=
  if br ≠ '\n' then Content.ofChars (br :: brs)
  else if brs.isEmpty then [' '.toNat]
  else Content.ofChars brs

/-- The escape behind a backslash: what it stands for, and the cursor behind it. -/
def escape (fuel : Nat) (c : Cursor) : Except Flaw (Content × Cursor) :=
  let ch := c.peek
  match escaped? ch with
  | some n => .ok ([n], c.next)
  | none =>
    match escapeWidth? ch with
    | some width =>
      let digits := c.next.rest.take width
      if digits.length = width && digits.all isHexDigit then
        (codePoint (hexNumber digits)).map fun n => ([n], c.next.skip width)
      else .error .invalid
    | none =>
      match c.lineBreak? with
      | some (_, c) => (quotedBreaks fuel c).map fun (brs, c) => (Content.ofChars brs, c)
      | none => .error .invalid

/-- The blanks and breaks at the cursor: what they stand for, and the cursor behind them. -/
def quotedGap (fuel : Nat) (c : Cursor) : Except Flaw (Content × Cursor) :=
  let (blanks, c) := c.span fun ch => ch = ' ' || ch = '\t'
  match c.lineBreak? with
  | none => .ok (Content.ofChars blanks, c)
  | some (br, c) => (quotedBreaks fuel c).map fun (brs, c) => (foldBreaks br brs, c)

/-- A quoted scalar from behind its first quote on; `done` holds what has been read, last first.
    The answer ends behind the closing quote. -/
def quotedRest (double : Bool) : Nat → Content → Cursor → Except Flaw (Content × Cursor)
  | 0, _, _ => .error .invalid
  | fuel + 1, done, c =>
    let ch := c.peek
    if ch = endMark && c.rest.isEmpty then .error .invalid
    else if !double && ch = '\'' && c.peekAt 1 = '\'' then
      quotedRest double fuel (ch.toNat :: done) (c.skip 2)
    else if ch = (if double then '"' else '\'') then .ok (done.reverse, c.next)
    else if double && ch = '\\' then
      match escape fuel c.next with
      | .error flaw => .error flaw
      | .ok (content, c) => quotedRest double fuel (content.reverse ++ done) c
    else if ch = ' ' || ch = '\t' || isBreak ch then
      match quotedGap fuel c with
      | .error flaw => .error flaw
      | .ok (content, c) => quotedRest double fuel (content.reverse ++ done) c
    else quotedRest double fuel (ch.toNat :: done) c.next

/-- The quoted scalar at the cursor, and the cursor behind it. -/
def quotedScalar (double : Bool) (c : Cursor) : Except Flaw (Content × Cursor) :=
  quotedRest double (c.rest.length + 2) [] c.next

end Transclude.Yaml
