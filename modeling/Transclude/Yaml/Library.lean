import Transclude.Yaml.Graph

/-! # What reads and writes YAML

YAML is read and written by a library from outside: it gives the graph that a
text means, and a text for a node of a graph without aliases.  Nothing is said
here of how it does that. -/

namespace Transclude.Yaml

/-- A library that reads and writes YAML. -/
structure Library where
  /-- The graph of a text and the number of its root; nothing if the text holds no document. -/
  compose : (text : String) → Except Flaw (Option (Nat × Graph))
  /-- The text of a node, and of all nodes that it leads to. -/
  serialize : Graph → Nat → Except Fault String
  /-- How many calls may stand inside of each other. -/
  callDepth : Nat

end Transclude.Yaml
