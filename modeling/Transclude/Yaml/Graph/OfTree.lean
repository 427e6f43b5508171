import Transclude.Yaml.Graph
import Transclude.Yaml.Tag
import Transclude.Yaml.Tree

/-! # From trees to graphs

`Graph.ofTree` numbers the nodes of a tree in the order in which they start.
An anchor must stand before its aliases, and no two nodes may have the same. -/

namespace Transclude.Yaml.Graph

/-- A graph that is being built. -/
structure Builder where
  nodes : Graph := #[]
  anchors : List (String × Nat) := []

/-- Add a node; its number is the number of nodes before it. -/
def Builder.add (b : Builder) (node : Node) : Builder := { b with nodes := b.nodes.push node }

/-- Put the final node in the place of a preliminary one. -/
def Builder.put (b : Builder) (i : Nat) (node : Node) : Builder :=
  { b with nodes := b.nodes.setIfInBounds i node }

/-- Give the next node its anchor, if it has one. -/
def Builder.anchor (b : Builder) : Option String → Except Flaw Builder
  | none => .ok b
  | some name =>
    if (b.anchors.lookup name).isSome then .error .invalid
    else .ok { b with anchors := (name, b.nodes.size) :: b.anchors }

mutual

/-- Add the nodes of a tree; the answer is the number of its root. -/
def addTree (b : Builder) : Tree → Except Flaw (Nat × Builder)
  | .aliasOf name =>
    match b.anchors.lookup name with
    | none => .error .invalid
    | some target => .ok (b.nodes.size, b.add (.aliasOf target))
  | .scalar marks content style => do
    let b ← b.anchor marks.anchor
    return (b.nodes.size, b.add (.scalar (Tag.ofScalar marks.tag content style) content style))
  | .sequence marks inFlow items => do
    let b ← b.anchor marks.anchor
    let i := b.nodes.size
    let tag := Tag.ofCollection marks.tag Tag.seq
    let (items, b) ← addItems (b.add (.sequence tag inFlow [])) items
    return (i, b.put i (.sequence tag inFlow items))
  | .mapping marks inFlow entries => do
    let b ← b.anchor marks.anchor
    let i := b.nodes.size
    let tag := Tag.ofCollection marks.tag Tag.map
    let (entries, b) ← addEntries (b.add (.mapping tag inFlow [])) entries
    return (i, b.put i (.mapping tag inFlow entries))

/-- Add the nodes of several trees. -/
def addItems (b : Builder) : List Tree → Except Flaw (List Nat × Builder)
  | [] => .ok ([], b)
  | tree :: rest => do
    let (i, b) ← addTree b tree
    let (is, b) ← addItems b rest
    return (i :: is, b)

/-- Add the nodes of several entries. -/
def addEntries (b : Builder) : List (Tree × Tree) → Except Flaw (List (Nat × Nat) × Builder)
  | [] => .ok ([], b)
  | (key, value) :: rest => do
    let (k, b) ← addTree b key
    let (v, b) ← addTree b value
    let (entries, b) ← addEntries b rest
    return ((k, v) :: entries, b)

end

/-- The graph of a tree and the number of its root. -/
def ofTree (tree : Tree) : Except Flaw (Nat × Graph) := do
  let (root, b) ← addTree {} tree
  return (root, b.nodes)

end Transclude.Yaml.Graph
