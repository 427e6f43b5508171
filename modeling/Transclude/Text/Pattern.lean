/-! # Patterns

Regular expressions over characters, matched by derivatives: what is left of a
pattern after one character is again a pattern, and a text matches if the empty
text matches what is left after all of it. -/

namespace Transclude.Text

/-- A regular expression. -/
inductive Pattern where
  | never
  | empty
  | one (p : Char → Bool)
  | alt (a b : Pattern)
  | seq (a b : Pattern)
  | star (a : Pattern)

namespace Pattern

/-- The empty text matches. -/
def nullable : Pattern → Bool
  | never => false
  | empty => true
  | one _ => false
  | alt a b => a.nullable || b.nullable
  | seq a b => a.nullable && b.nullable
  | star _ => true

/-- Either pattern, without one that never matches. -/
def either : Pattern → Pattern → Pattern
  | never, b => b
  | a, never => a
  | a, b => alt a b

/-- Both patterns in turn, or nothing if one of them never matches. -/
def both : Pattern → Pattern → Pattern
  | never, _ => never
  | _, never => never
  | empty, b => b
  | a, b => seq a b

/-- What is left of a pattern after the character `c`. -/
def after (c : Char) : Pattern → Pattern
  | never => never
  | empty => never
  | one p => if p c then empty else never
  | alt a b => either (a.after c) (b.after c)
  | seq a b =>
    if a.nullable then either (both (a.after c) b) (b.after c) else both (a.after c) b
  | star a => both (a.after c) (star a)

/-- The whole text matches. -/
def matchesAll (p : Pattern) (cs : List Char) : Bool :=
  (cs.foldl (fun p c => p.after c) p).nullable

/-- Look for a longer match from the character at position `i` on, where `best` is the longest so
    far. -/
def longestFrom (p : Pattern) (i : Nat) (best : Option Nat) : List Char → Option Nat
  | [] => best
  | c :: cs =>
    match p.after c with
    | never => best
    | p => longestFrom p (i + 1) (if p.nullable then some (i + 1) else best) cs

/-- The length of the longest match at the start of a text. -/
def longest? (p : Pattern) (cs : List Char) : Option Nat :=
  longestFrom p 0 (if p.nullable then some 0 else none) cs

/-- A given word. -/
def word (w : String) : Pattern := w.toList.foldr (fun c p => both (one (· = c)) p) empty

/-- One of the given words. -/
def anyWord (ws : List String) : Pattern := ws.foldr (fun w p => either (word w) p) never

/-- One of the characters of a word. -/
def oneOf (w : String) : Pattern := one fun c => w.toList.contains c

/-- Nothing, or the pattern. -/
def optional (a : Pattern) : Pattern := alt empty a

/-- The pattern once or more often. -/
def many (a : Pattern) : Pattern := seq a (star a)

/-- Several patterns in turn. -/
def inTurn (ps : List Pattern) : Pattern := ps.foldr both empty

/-- One of several patterns. -/
def anyOf (ps : List Pattern) : Pattern := ps.foldr either never

end Pattern

end Transclude.Text
