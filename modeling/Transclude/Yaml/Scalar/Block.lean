import Transclude.Yaml.Cursor

/-! # Block scalars

A literal scalar keeps its line breaks; a folded one turns a break between two
lines that start with no blank into a space.  The header says how the breaks at
the end are treated, and may say how far the lines are indented. -/

namespace Transclude.Yaml

/-- What becomes of the line breaks at the end of a block scalar. -/
inductive Chomping where
  /-- One of them is kept. -/
  | clip
  /-- None of them is kept. -/
  | strip
  /-- All of them are kept. -/
  | keep
deriving Repr, DecidableEq

/-- The mark of a chomping, if there is one at the cursor. -/
def chomping? (c : Cursor) : Option (Chomping × Cursor) :=
  if c.peek = '+' then some (.keep, c.next)
  else if c.peek = '-' then some (.strip, c.next)
  else none

/-- The digit of an indentation at the cursor; zero is no indentation. -/
def increment? (c : Cursor) : Except Flaw (Option Nat × Cursor) :=
  if c.peek.isDigit then
    if c.peek = '0' then .error .invalid else .ok (some (c.peek.toNat - 48), c.next)
  else .ok (none, c)

/-- The header of a block scalar: chomping and indentation in either order. -/
def blockHeader (c : Cursor) : Except Flaw (Chomping × Option Nat × Cursor) := do
  let (chomping, increment, c) ← match chomping? c with
    | some (chomping, c) => do
      let (increment, c) ← increment? c
      pure (chomping, increment, c)
    | none => do
      let (increment, c) ← increment? c
      match increment, chomping? c with
      | some _, some (chomping, c) => pure (chomping, increment, c)
      | _, _ => pure (Chomping.clip, increment, c)
  if endsWord c.peek then
    match c.restOfLine? with
    | some c => return (chomping, increment, c)
    | none => .error .invalid
  else .error .invalid

/-- The breaks and spaces before the first line with content: the breaks, the largest column
    reached, and the cursor behind them. -/
def leadingBreaks : Nat → Nat → Cursor → List Char × Nat × Cursor
  | 0, widest, c => ([], widest, c)
  | fuel + 1, widest, c =>
    if c.peek = ' ' then
      let c := c.next
      leadingBreaks fuel (max widest c.column) c
    else match c.lineBreak? with
      | none => ([], widest, c)
      | some (br, c) =>
        let (brs, widest, c) := leadingBreaks fuel widest c
        (br :: brs, widest, c)

/-- The cursor behind the spaces, but not beyond column `indent`. -/
def skipIndent (indent : Nat) : Nat → Cursor → Cursor
  | 0, c => c
  | fuel + 1, c =>
    if c.column < indent && c.peek = ' ' then skipIndent indent fuel c.next else c

/-- The breaks of the empty lines at the cursor, and the cursor at the indentation behind them. -/
def blockBreaks (indent : Nat) : Nat → Cursor → List Char × Cursor
  | 0, c => ([], c)
  | fuel + 1, c =>
    let c := skipIndent indent indent c
    match c.lineBreak? with
    | none => ([], c)
    | some (br, c) =>
      let (brs, c) := blockBreaks indent fuel c
      (br :: brs, c)

/-- The lines of a block scalar from the cursor on.  `done` holds what has been read and `breaks`
    the breaks of the empty lines before the cursor.  The answer is the content, the last line
    break, the breaks of the empty lines behind it, and the cursor. -/
def blockLines (folded : Bool) (indent : Nat) :
    Nat → Content → List Char → List Char → Cursor → Content × List Char × List Char × Cursor
  | 0, done, br, breaks, c => (done, br, breaks, c)
  | fuel + 1, done, br, breaks, c =>
    if c.column = indent && !c.rest.isEmpty then
      let flush := !(c.peek = ' ' || c.peek = '\t')
      let (line, c) := c.span fun ch => !endsLine ch
      let done := done ++ Content.ofChars breaks ++ Content.ofChars line
      let (br, c) := match c.lineBreak? with
        | some (br, c) => ([br], c)
        | none => ([], c)
      let (breaks, c) := blockBreaks indent fuel c
      if c.column = indent && !c.rest.isEmpty then
        let joined : List Char :=
          if folded && br = ['\n'] && flush && !(c.peek = ' ' || c.peek = '\t') then
            if breaks.isEmpty then [' '] else []
          else br
        blockLines folded indent fuel (done ++ Content.ofChars joined) br breaks c
      else (done, br, breaks, c)
    else (done, br, breaks, c)

/-- The block scalar at the cursor, in a block indented by `outer`. -/
def blockScalar (folded : Bool) (outer : Int) (c : Cursor) : Except Flaw (Content × Cursor) := do
  let (chomping, increment, c) ← blockHeader c.next
  let least : Nat := max 1 (outer + 1).toNat
  let fuel := c.rest.length + 1
  let (breaks, indent, c) := match increment with
    | some increment =>
      let indent := least + increment - 1
      let (breaks, c) := blockBreaks indent fuel c
      (breaks, indent, c)
    | none =>
      let (breaks, widest, c) := leadingBreaks fuel 0 c
      (breaks, max least widest, c)
  let (content, br, breaks, c) := blockLines folded indent fuel [] [] breaks c
  let tail : List Char := match chomping with
    | .strip => []
    | .clip => br
    | .keep => br ++ breaks
  return (content ++ Content.ofChars tail, c)

end Transclude.Yaml
