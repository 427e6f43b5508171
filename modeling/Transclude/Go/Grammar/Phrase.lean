import Transclude.Go.Form

/-! # Phrases

The names of the phrases of the Go grammar, and the forms that all of them use.

A newline ends a statement where the statement could end, and is a blank
everywhere else.  Whether it could end is known from the phrases around, so
phrases that may stand last in a statement come in two versions: one in which
nothing goes on behind a newline, and one for places inside of brackets and the
like. -/

namespace Transclude.Go

/-- Where an expression stands. -/
inductive Site where
  /-- First in a statement: the statement may end or go on with an assignment. -/
  | start
  /-- Last in a statement. -/
  | line
  /-- Where neither the statement may end nor a block may start behind the expression. -/
  | closed
  /-- First in the header of a block, as `start` without an end of the statement. -/
  | head
  /-- Last in the header of a block. -/
  | tail
deriving Repr, DecidableEq

namespace Site

/-- A newline behind the expression ends the statement. -/
def breaks : Site → Bool
  | start | line => true
  | _ => false

/-- A block may start behind the expression. -/
def headed : Site → Bool
  | head | tail => true
  | _ => false

/-- The operator of an assignment may stand behind the expression. -/
def assigns : Site → Bool
  | start | head => true
  | _ => false

end Site

/-- The phrases of the grammar that lead to each other. -/
inductive Phrase where
  | file
  | statement
  | statements
  | block
  | ifStatement
  | expression (site : Site)
  | literalBody
  | parameters
  /-- A type; `breaks` if a newline behind it may end the statement. -/
  | type (breaks : Bool)
  /-- A struct or an interface. -/
  | braced
deriving Repr, DecidableEq

namespace Grammar

open Form

/-- What a piece of Go looks like. -/
abbrev GoForm := Form Phrase

/-- A given word. -/
def word (w : String) : GoForm := lexeme (.word w)

/-- A given sign, without rivals. -/
def sign (s : String) : GoForm := lexeme (.sign [s] [])

/-- A given form as a named node. -/
def node (type : String) (a : GoForm) : GoForm := marked type true a

/-- A given sign as a token of the tree. -/
def token (s : String) : GoForm := marked s false (sign s)

/-- A given word as a token of the tree. -/
def keyword (w : String) : GoForm := marked w false (word w)

/-- A colon that is not the start of `:=`. -/
def colon : GoForm := lexeme (.sign [":"] [":="])

/-- A bar that is not the start of `||`. -/
def bar : GoForm := lexeme (.sign ["|"] ["||"])

/-- An identifier. -/
def identifier : GoForm := lexeme .identifier

/-- A string. -/
def string : GoForm := lexeme .string

/-- An expression. -/
def expression (site : Site) : GoForm := phrase (.expression site)

/-- A type. -/
def type (breaks : Bool) : GoForm := phrase (.type breaks)

/-- A block. -/
def block : GoForm := phrase .block

/-- Nothing, but on the same line if a newline would end the statement. -/
def connected (breaks : Bool) : GoForm := if breaks then unbroken else nothing

/-- A form once or more often, with commas between. -/
def commaList (breaks : Bool) (a : GoForm) : GoForm :=
  seq a (repeated (inTurn [connected breaks, sign ",", a]))

/-- Pieces that a terminator separates; the last one need not have any. -/
def lines (a : GoForm) : GoForm :=
  optional (inTurn [a, repeated (seq terminator a), optional terminator])

/-- Items with commas between; a comma may follow the last one. -/
def items (a : GoForm) : GoForm := seq (commaList false a) (optional (sign ","))

/-- Any number of items between brackets. -/
def bracketed (left right : String) (a : GoForm) : GoForm :=
  inTurn [sign left, optional (items a), sign right]

/-- Specifications in parentheses. -/
def group (a : GoForm) : GoForm := inTurn [token "(", lines a, token ")"]

/-- Expressions with commas between. -/
def expressions (site : Site) : GoForm := commaList site.breaks (expression site)

end Grammar

end Transclude.Go
