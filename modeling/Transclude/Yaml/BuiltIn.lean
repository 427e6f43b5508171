import Transclude.Yaml.Graph.OfTree
import Transclude.Yaml.Library
import Transclude.Yaml.Render
import Transclude.Yaml.Token.Stream
import Transclude.Yaml.Tree.OfTokens

/-! # Reading and writing YAML here

A library of our own that reads and writes YAML: a text is cut into tokens, the
tokens make a tree and the tree a graph, and a graph is written from its
sketch. -/

namespace Transclude.Yaml

/-- The graph of a text and the number of its root; nothing if the text holds no document. -/
def readGraph (text : String) : Except Flaw (Option (Nat × Graph)) := do
  match ← Tree.ofTokens (Token.stream text.toList) with
  | none => return none
  | some tree => return some (← Graph.ofTree tree)

/-- The library. -/
def builtIn : Library where
  compose := readGraph
  serialize g i := .ok (Sketch.render (Sketch.ofGraph g i))
  callDepth := Fault.callDepth

end Transclude.Yaml
