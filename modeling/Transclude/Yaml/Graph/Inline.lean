import Transclude.Yaml.Graph

/-! # Nodes without aliases

Before a node is written, references to aliases are replaced by references to what
the aliases stand for: in the node itself and then in all nodes that it leads to.

A graph may have cycles and nodes that are shared, so the nodes where this is done
are kept and left alone when they are met again.  What is replaced in a node is
seen by all that comes after it. -/

namespace Transclude.Yaml.Graph

/-- A graph whose references are being replaced. -/
structure Inlining where
  nodes : Graph
  /-- The nodes where it is done, the latest first. -/
  done : List Nat := []

/-- Let a node refer past the aliases. -/
def Inlining.redirect (s : Inlining) (i : Nat) : Inlining :=
  { nodes := s.nodes.modify i (Node.mapChildren s.nodes.target), done := i :: s.done }

/-- What a node refers to. -/
def childrenOf (g : Graph) (i : Nat) : List Nat := (g[i]?.map Node.children).getD []

/-- Make a call for several nodes in turn. -/
def enterAll (call : Nat → Inlining → Option Inlining) : List Nat → Inlining → Option Inlining
  | [], s => some s
  | i :: is, s => do
    let s ← call i s
    enterAll call is s

/-- Let a node and all that it leads to refer past the aliases.  There is no answer if calls inside
    of each other would go deeper than `depth`. -/
def enter : (depth : Nat) → Nat → Inlining → Option Inlining
  | 0, _, _ => none
  | depth + 1, i, s =>
    if s.done.contains i then some s
    else
      let s := s.redirect i
      enterAll (enter depth) (s.nodes.childrenOf i) s

/-- The graph in which no alias can be reached from node `i`, if calls inside of each other need not
    go deeper than `depth`. -/
def inlinedFrom (depth : Nat) (g : Graph) (i : Nat) : Option Graph :=
  (enter depth i { nodes := g }).map Inlining.nodes

end Transclude.Yaml.Graph
