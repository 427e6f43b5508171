import Transclude.Go.Grammar.Statement
import Transclude.Go.Library

/-! # Reading Go here

A library of our own that reads Go: the first reading of a text as a file by the
grammar is its tree.  A text that cannot be read has a tree without nodes. -/

namespace Transclude.Go

/-- How many phrases can be inside of each other without a character being read. -/
def phraseDepth : Nat := 16

/-- Where the reading of a text starts: behind a byte order mark. -/
def firstCursor (text : List Char) : Cursor :=
  match text with
  | '\uFEFF' :: rest => ⟨3, rest⟩
  | text => ⟨0, text⟩

/-- The nodes of a text, if it is Go. -/
def readFile (text : List Char) : Option (List Syntax.Node) :=
  let readings := read Grammar.rules (phraseDepth * (text.length + 1)) .file (firstCursor text)
  (readings.find? fun r => r.cursor.skip.rest.isEmpty).map Reading.nodes

/-- The tree of a text. -/
def readTree (bytes : ByteArray) : Syntax.Tree :=
  let root := Syntax.Node.mk "source_file" true none 0 bytes.size
  match Text.decode bytes with
  | .error _ => ⟨root [], true⟩
  | .ok text =>
    match readFile text.toList with
    | some nodes => ⟨root nodes, false⟩
    | none => ⟨root [], true⟩

/-- The library. -/
def builtIn : Library where
  parse := readTree
  findings query tree := query.matchesIn tree
  callDepth := Fault.callDepth

end Transclude.Go
