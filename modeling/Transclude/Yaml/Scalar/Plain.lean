import Transclude.Yaml.Scalar.Quoted

/-! # Plain scalars

A plain scalar runs on over line breaks as long as the lines are indented.  In a
flow collection it ends at the marks of the collection.  Tabs end it
everywhere, and a document marker at the start of a line does. -/

namespace Transclude.Yaml

/-- The marks that structure a flow collection. -/
def isFlowMark (c : Char) : Bool := c = ',' || c = '[' || c = ']' || c = '\x7b' || c = '\x7d'

/-- The number of characters at the head of a text that belong to one word of a plain scalar. -/
def plainLength (inFlow : Bool) : List Char → Nat
  | [] => 0
  | ch :: rest =>
    let behind := rest.headD endMark
    if isGap ch || (ch = ':' && (isGap behind || (inFlow && isFlowMark behind)))
        || (inFlow && (isFlowMark ch || ch = '?')) then 0
    else plainLength inFlow rest + 1

/-- The breaks and spaces after the first line break behind a word.  `none` when a document
    marker comes in between. -/
def plainBreaks : Nat → Cursor → Option (List Char) × Cursor
  | 0, c => (none, c)
  | fuel + 1, c =>
    if c.peek = ' ' then plainBreaks fuel c.next
    else match c.lineBreak? with
      | none => (some [], c)
      | some (br, c) =>
        if c.atAnyMarker then (none, c)
        else match plainBreaks fuel c with
          | (some brs, c) => (some (br :: brs), c)
          | (none, c) => (none, c)

/-- What stands between two words of a plain scalar. -/
structure PlainGap where
  /-- What the gap stands for; nothing if no word may follow. -/
  content : Content
  /-- The gap holds a line break. -/
  broken : Bool
  cursor : Cursor

/-- The gap at the cursor. -/
def plainGap (fuel : Nat) (c : Cursor) : PlainGap :=
  let (spaces, c) := c.span (· = ' ')
  match c.lineBreak? with
  | none => ⟨Content.ofChars spaces, false, c⟩
  | some (br, c) =>
    if c.atAnyMarker then ⟨[], true, c⟩
    else match plainBreaks fuel c with
      | (some brs, c) => ⟨foldBreaks br brs, true, c⟩
      | (none, c) => ⟨[], true, c⟩

/-- A plain scalar as it has been read. -/
structure PlainScalar where
  content : Content
  /-- A line break follows the last word. -/
  broken : Bool
  cursor : Cursor

/-- The words of a plain scalar from the cursor on, behind the content `done` and the gap `gap`.
    Outside flow collections lines must be indented by `indent` or more. -/
def plainRest (inFlow : Bool) (indent : Int) : Nat → Content → PlainGap → PlainScalar
  | 0, done, gap => ⟨done, gap.broken, gap.cursor⟩
  | fuel + 1, done, gap =>
    let c := gap.cursor
    let n := if c.peek = '#' then 0 else plainLength inFlow c.rest
    if n = 0 then ⟨done, gap.broken, c⟩
    else
      let done := done ++ gap.content ++ Content.ofChars (c.rest.take n)
      let gap := plainGap fuel (c.skip n)
      if gap.content.isEmpty || gap.cursor.peek = '#'
          || (!inFlow && gap.cursor.column < indent) then
        ⟨done, gap.broken, gap.cursor⟩
      else plainRest inFlow indent fuel done gap

/-- The plain scalar at the cursor. -/
def plainScalar (inFlow : Bool) (indent : Int) (c : Cursor) : PlainScalar :=
  plainRest inFlow indent (c.rest.length + 1) [] ⟨[], false, c⟩

end Transclude.Yaml
