import Transclude.Go.Lexeme
import Transclude.Syntax.Tree

/-! # Forms

A grammar as data.  A form says what a piece of text looks like; the forms of a
grammar refer to each other by names, here called phrases.  `Form.readings` gives
every way in which a form can be read at a place, the preferred ones first, and
`read` does so for a phrase.  A reading yields the nodes of a syntax tree that the
grammar marks.

Reading is total: each phrase inside a phrase uses up fuel.  A phrase never leads
back to itself before a character is read, so fuel in proportion to the length
of the text suffices. -/

namespace Transclude.Go

/-! ## Places -/

/-- A place in a text. -/
structure Cursor where
  /-- The number of bytes in front. -/
  pos : Nat
  /-- The text behind. -/
  rest : List Char
deriving Repr, DecidableEq

namespace Cursor

/-- The place `n` characters further. -/
def advance (c : Cursor) (n : Nat) : Cursor :=
  ⟨(c.rest.take n).foldl (fun pos ch => pos + ch.utf8Size) c.pos, c.rest.drop n⟩

/-- The place behind blanks and comments. -/
def skip (c : Cursor) : Cursor := c.advance (gapLength true .between c.rest)

/-- The place behind the blanks and comments of this line. -/
def skipInLine (c : Cursor) : Cursor := c.advance (gapLength false .between c.rest)

end Cursor

/-! ## Forms -/

/-- What a piece of text looks like. -/
inductive Form (Phrase : Type) where
  | nothing
  /-- Nothing, where something else follows on the same line. -/
  | unbroken
  /-- The end of a statement: a newline, a semicolon or a NUL. -/
  | terminator
  | lexeme (l : Lexeme)
  | phrase (p : Phrase)
  | seq (a b : Form Phrase)
  /-- Either form. -/
  | either (a b : Form Phrase)
  /-- The second form, where the first one cannot be read. -/
  | orElse (a b : Form Phrase)
  /-- Nothing, where the form cannot be read. -/
  | absent (a : Form Phrase)
  /-- The form any number of times. -/
  | repeated (a : Form Phrase)
  /-- The form, as a node. -/
  | marked (type : String) (named : Bool) (a : Form Phrase)
  /-- The form, whose nodes play a part in the node around. -/
  | playing (part : String) (a : Form Phrase)

/-- One way to read a form. -/
structure Reading where
  nodes : List Syntax.Node := []
  /-- The place behind. -/
  cursor : Cursor

namespace Reading

/-- A reading that goes on with another one. -/
def followed (r : Reading) (next : Reading) : Reading := ⟨r.nodes ++ next.nodes, next.cursor⟩

/-- The readings without those that end where an earlier one ends; `seen` holds the ends so
    far. -/
def distinct (seen : List Nat) : List Reading → List Reading
  | [] => []
  | r :: rest =>
    if seen.contains r.cursor.pos then distinct seen rest
    else r :: distinct (r.cursor.pos :: seen) rest

end Reading

namespace Form

variable {Phrase : Type}

/-- Several forms in turn. -/
def inTurn : List (Form Phrase) → Form Phrase
  | [] => nothing
  | [a] => a
  | a :: rest => seq a (inTurn rest)

/-- One of several forms. -/
def anyOf : List (Form Phrase) → Form Phrase
  | [] => absent nothing
  | [a] => a
  | a :: rest => either a (anyOf rest)

/-- The form or nothing. -/
def optional (a : Form Phrase) : Form Phrase := either a nothing

/-- The form wherever it can be read, otherwise nothing. -/
def possibly (a : Form Phrase) : Form Phrase := orElse a nothing

/-- All readings of a form any number of times, at most `limit` times. -/
def again (one : Cursor → List Reading) : Nat → Cursor → List Reading
  | 0, c => [{ cursor := c }]
  | limit + 1, c =>
    ((one c).flatMap fun r =>
      if r.cursor.pos = c.pos then [] else (again one limit r.cursor).map r.followed)
      ++ [{ cursor := c }]

/-- All readings of a form at a place, where `sub` reads phrases. -/
def readings (sub : Phrase → Cursor → List Reading) (limit : Nat) :
    Form Phrase → Cursor → List Reading
  | nothing, c => [{ cursor := c }]
  | unbroken, c => if c.skipInLine.rest.head? = some '\n' then [] else [{ cursor := c }]
  | terminator, c =>
    let c := c.skipInLine
    match c.rest with
    | ch :: _ =>
      if ch = '\n' || ch = ';' || ch = '\x00' then [{ cursor := c.advance 1 }] else []
    | [] => []
  | lexeme l, c =>
    let c := c.skip
    match l.length? c.rest with
    | some n => [{ cursor := c.advance n }]
    | none => []
  | phrase p, c => sub p c
  | seq a b, c =>
    (a.readings sub limit c).flatMap fun r => (b.readings sub limit r.cursor).map r.followed
  | either a b, c => a.readings sub limit c ++ b.readings sub limit c
  | orElse a b, c =>
    match a.readings sub limit c with
    | [] => b.readings sub limit c
    | rs => rs
  | absent a, c =>
    match a.readings sub limit c with
    | [] => [{ cursor := c }]
    | _ => []
  | repeated a, c => again (a.readings sub limit) limit c
  | marked type named a, c =>
    let start := c.skip.pos
    (a.readings sub limit c).map fun r =>
      { r with nodes := [.mk type named none start r.cursor.pos r.nodes] }
  | playing part a, c =>
    (a.readings sub limit c).map fun r =>
      { r with nodes := r.nodes.map fun
          | .mk type named _ start stop children => .mk type named (some part) start stop children }

end Form

/-- All readings of a phrase, with fuel. -/
def read {Phrase : Type} (rules : Phrase → Form Phrase) : Nat → Phrase → Cursor → List Reading
  | 0, _, _ => []
  | fuel + 1, p, c => Reading.distinct [] ((rules p).readings (read rules fuel) fuel c)

end Transclude.Go
