import Transclude.Yaml.Scalar.Form

/-! # The page

A page is a text that is being written, with what the next step has to know: the
column, whether a blank or nothing but indentation stands before it, and whether
the document has to be closed by a mark because its last scalar has no end of
its own. -/

namespace Transclude.Yaml

/-- Beyond this column lines are broken where they may be. -/
def lineWidth : Nat := 4096

/-- The indentation of a block in its parent. -/
def indentWidth : Nat := 2

/-- A text that is being written. -/
structure Page where
  /-- What has been written, last character first. -/
  written : List Char := []
  column : Nat := 0
  /-- A blank has been written last, or nothing on this line. -/
  spaced : Bool := true
  /-- Nothing but indentation and marks of blocks has been written on this line. -/
  fresh : Bool := true
  /-- The last scalar has no end of its own. -/
  openEnded : Bool := false

namespace Page

/-- The text of a page. -/
def text (p : Page) : String := String.ofList p.written.reverse

/-- Write characters. -/
def put (p : Page) (cs : List Char) : Page :=
  { p with written := cs.reverse ++ p.written, column := p.column + cs.length }

/-- End the line with the given break. -/
def breakLine (p : Page) (br : Char := '\n') : Page :=
  { p with written := br :: p.written, column := 0, spaced := true, fresh := true }

/-- Go to column `indent` of a line that holds nothing else. -/
def toIndent (p : Page) (indent : Nat) : Page :=
  let p :=
    if !p.fresh || indent < p.column || (p.column = indent && !p.spaced) then p.breakLine else p
  if p.column < indent then
    { p.put (List.replicate (indent - p.column) ' ') with spaced := true }
  else p

/-- Write a mark, with a space in front if it needs one.  `spaced` says that what follows needs no
    space, `fresh` that a block may start behind the mark. -/
def mark (p : Page) (text : String) (needsSpace : Bool) (spaced : Bool := false)
    (fresh : Bool := false) : Page :=
  let cs := if p.spaced || !needsSpace then text.toList else ' ' :: text.toList
  { p.put cs with spaced, fresh := p.fresh && fresh, openEnded := false }

/-! ## Scalars -/

/-- The class of a character: space, break, single quote or other. -/
def runClass (c : Char) : Nat :=
  if c = ' ' then 0 else if breaks c.toNat then 1 else if c = '\'' then 2 else 3

/-- The runs of characters of one class. -/
def runs (cs : List Char) : List (List Char) := cs.splitBy fun a b => runClass a = runClass b

/-- The class of a run. -/
def classOf (run : List Char) : Nat := runClass (run.headD 'x')

/-- Write line breaks. -/
def putBreaks (p : Page) (brs : List Char) : Page := brs.foldl (fun p br => p.breakLine br) p

/-- Write the runs of a plain scalar.  A single space beyond the width may become a line break. -/
def plainRuns (split : Bool) (indent : Nat) : List (List Char) → Page → Page
  | [], p => p
  | run :: rest, p =>
    let p :=
      if classOf run = 0 && run.length = 1 && lineWidth < p.column && split then
        { p.toIndent indent with spaced := false, fresh := false }
      else p.put run
    plainRuns split indent rest p

/-- Write a plain scalar. -/
def plain (p : Page) (root split : Bool) (indent : Nat) (cs : List Char) : Page :=
  let p := if root then { p with openEnded := true } else p
  if cs.isEmpty then p
  else
    let p := if p.spaced then p else p.put [' ']
    plainRuns split indent (runs cs) { p with spaced := false, fresh := false }

/-- Write the runs of a scalar in single quotes. -/
def singleRuns (split : Bool) (indent : Nat) (first : Bool) : List (List Char) → Page → Page
  | [], p => p
  | run :: rest, p =>
    let p :=
      match classOf run with
      | 0 =>
        if run.length = 1 && lineWidth < p.column && split && !first && !rest.isEmpty then
          p.toIndent indent
        else p.put run
      | 1 =>
        let p := if run.head? = some '\n' then p.breakLine else p
        (p.putBreaks run).toIndent indent
      | 2 => p.put (run ++ run)
      | _ => p.put run
    singleRuns split indent false rest p

/-- Write a scalar in single quotes. -/
def single (p : Page) (split : Bool) (indent : Nat) (cs : List Char) : Page :=
  (singleRuns split indent true (runs cs) (p.mark "'" true)).mark "'" false

/-- The escape of a code point in double quotes, if it needs one. -/
def escape? (n : Nat) : Option (List Char) :=
  if isOneOf n "\"\\" then some ['\\', Char.ofNat n]
  else if n ≠ 0xFEFF && ((0x20 ≤ n && n ≤ 0x7E)
      || (0xA0 ≤ n && n ≤ 0xD7FF && n ≠ 0x2028 && n ≠ 0x2029) || (0xE000 ≤ n && n ≤ 0xFFFD)) then
    none
  else
    let digits (width : Nat) : List Char :=
      let ds := (Nat.toDigits 16 n).map Char.toUpper
      List.replicate (width - ds.length) '0' ++ ds
    let letter := [(0x0, '0'), (0x7, 'a'), (0x8, 'b'), (0x9, 't'), (0xA, 'n'), (0xB, 'v'),
      (0xC, 'f'), (0xD, 'r'), (0x1B, 'e'), (0x85, 'N'), (0x2028, 'L'), (0x2029, 'P')].lookup n
    match letter with
    | some c => some ['\\', c]
    | none =>
      if n ≤ 0xFF then some ('\\' :: 'x' :: digits 2)
      else if n ≤ 0xFFFF then some ('\\' :: 'u' :: digits 4)
      else some ('\\' :: 'U' :: digits 8)

/-- Go on in the next line of a scalar in double quotes; a space at its start is escaped. -/
def doubleBreak (p : Page) (indent : Nat) (next : Option Nat) : Page :=
  let p := { (p.put ['\\']).toIndent indent with spaced := false, fresh := false }
  if next = some ' '.toNat then p.put ['\\'] else p

/-- Write the code points of a scalar in double quotes.  `first` says that none has been written,
    `joined` that the last one written has no escape. -/
def doublePoints (split : Bool) (indent : Nat) (first joined : Bool) : Content → Page → Page
  | [], p => p
  | n :: rest, p =>
    let inside := !first && !rest.isEmpty && split
    match escape? n with
    | some cs =>
      let p := p.put cs
      let p := if inside && lineWidth + 1 < p.column then p.doubleBreak indent rest.head? else p
      doublePoints split indent false false rest p
    | none =>
      let p :=
        if inside && (isChar n ' ' || !joined) && lineWidth < p.column then
          p.doubleBreak indent (some n)
        else p
      doublePoints split indent false true rest (p.put [Char.ofNat n])

/-- Write a scalar in double quotes. -/
def double (p : Page) (split : Bool) (indent : Nat) (content : Content) : Page :=
  (doublePoints split indent true false content (p.mark "\"" true)).mark "\"" false

/-- What the header of a block scalar says: the indentation, if the scalar starts with a blank or
    a break, and what becomes of the breaks at its end. -/
def blockHints (cs : List Char) : String :=
  let ends := cs.reverse.map fun c => breaks c.toNat
  let indentation := match cs with
    | c :: _ => if c = ' ' || breaks c.toNat then toString indentWidth else ""
    | [] => ""
  let chomping := match ends with
    | [] => ""
    | false :: _ => "-"
    | true :: false :: _ => ""
    | true :: _ => "+"
  indentation ++ chomping

/-- Write the header of a block scalar. -/
def blockHead (p : Page) (indicator : String) (cs : List Char) : Page :=
  let hints := blockHints cs
  let p := p.mark (indicator ++ hints) true
  let p := if hints.toList.getLast? = some '+' then { p with openEnded := true } else p
  p.breakLine

/-- Write the runs of a folded scalar.  `blank` says that the last line starts with a space, or
    that no line has been written. -/
def foldedRuns (indent : Nat) (blank : Bool) : List (List Char) → Page → Page
  | [], p => p
  | run :: rest, p =>
    match classOf run with
    | 1 =>
      let next := rest.head?.bind List.head?
      let p :=
        if !blank && next.isSome && next ≠ some ' ' && run.head? = some '\n' then p.breakLine else p
      let p := p.putBreaks run
      let p := if next.isSome then p.toIndent indent else p
      foldedRuns indent (next = some ' ') rest p
    | 0 =>
      let p :=
        if run.length = 1 && lineWidth < p.column then p.toIndent indent else p.put run
      foldedRuns indent blank rest p
    | _ =>
      let p := p.put run
      foldedRuns indent blank rest (if rest.isEmpty then p.breakLine else p)

/-- Write a folded scalar. -/
def folded (p : Page) (indent : Nat) (cs : List Char) : Page :=
  let p := p.blockHead ">" cs
  match cs with
  | c :: _ =>
    if breaks c.toNat then foldedRuns indent true (runs cs) p
    else foldedRuns indent (c = ' ') (runs cs) (p.toIndent indent)
  | [] => p

/-- The lines of a literal scalar, with the breaks behind each. -/
def literalRuns (indent : Nat) : List (List Char) → Page → Page
  | [], p => p
  | run :: rest, p =>
    if breaks ((run.headD 'x').toNat) then
      let p := p.putBreaks run
      literalRuns indent rest (if rest.isEmpty then p else p.toIndent indent)
    else
      -- The column is not counted in the lines of a literal scalar.
      let p := { p with written := run.reverse ++ p.written }
      literalRuns indent rest (if rest.isEmpty then p.breakLine else p)

/-- Write a literal scalar. -/
def literal (p : Page) (indent : Nat) (cs : List Char) : Page :=
  let p := p.blockHead "|" cs
  let lines := cs.splitBy fun a b => breaks a.toNat = breaks b.toNat
  match cs with
  | c :: _ => literalRuns indent lines (if breaks c.toNat then p else p.toIndent indent)
  | [] => p

end Page

end Transclude.Yaml
