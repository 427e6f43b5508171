import Transclude.Syntax.Query

/-! # What reads Go

Go is read by a library from outside: it gives a syntax tree for every text, and
finds what fits the patterns of a query in a tree.  Nothing is said here of how
it does that. -/

namespace Transclude.Go

/-- A library that reads Go. -/
structure Library where
  /-- The tree of a text. -/
  parse : (bytes : ByteArray) → Syntax.Tree
  /-- What fits a query in a tree, in any order. -/
  findings : Syntax.Query → Syntax.Tree → List Syntax.Match
  /-- How many calls may stand inside of each other. -/
  callDepth : Nat

end Transclude.Go
