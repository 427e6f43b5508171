import Transclude.Yaml.Content

/-! # YAML graphs

A document means a graph: its nodes by number, where a node refers to others by
their numbers.  An alias is a node of its own that refers to the anchored node,
which may stand around the alias, so a graph may have cycles.

An alias never refers to another alias, so `Graph.target` passes over aliases in
one step. -/

namespace Transclude.Yaml

/-- A node of a graph. -/
inductive Node where
  | aliasOf (target : Nat)
  | scalar (tag : String) (content : Content) (style : Style)
  | sequence (tag : String) (inFlow : Bool) (items : List Nat)
  | mapping (tag : String) (inFlow : Bool) (entries : List (Nat × Nat))
deriving Repr, DecidableEq

namespace Node

/-- The name of the kind of a node. -/
def kind : Node → String
  | aliasOf _ => "alias"
  | scalar .. => "scalar"
  | sequence .. => "sequence"
  | mapping .. => "mapping"

/-- The nodes that a node refers to as its parts, keys before values. -/
def children : Node → List Nat
  | aliasOf _ => []
  | scalar .. => []
  | sequence _ _ items => items
  | mapping _ _ entries => entries.flatMap fun (key, value) => [key, value]

/-- The same node with other references to its parts. -/
def mapChildren (f : Nat → Nat) : Node → Node
  | aliasOf target => aliasOf target
  | scalar tag content style => scalar tag content style
  | sequence tag inFlow items => sequence tag inFlow (items.map f)
  | mapping tag inFlow entries => mapping tag inFlow (entries.map fun (k, v) => (f k, f v))

end Node

/-- The nodes of a document, by number. -/
abbrev Graph := Array Node

namespace Graph

/-- The node that a reference leads to, aliases passed over. -/
def target (g : Graph) (i : Nat) : Nat :=
  match g[i]? with
  | some (.aliasOf j) => j
  | _ => i

/-! ## Paths -/

/-- Why a path leads nowhere. -/
inductive Lost where
  /-- At this key the node is no mapping. -/
  | notAMapping (key kind : String)
  /-- The mapping has no such key. -/
  | noKey (key : String)
deriving Repr, DecidableEq

/-- The node is a scalar with the given content. -/
def isKey (g : Graph) (key : String) (i : Nat) : Bool :=
  match g[i]? with
  | some (.scalar _ content _) => content = Content.ofChars key.toList
  | _ => false

/-- The value of the first entry with the given key. -/
def valueOf? (g : Graph) (key : String) (entries : List (Nat × Nat)) : Option Nat :=
  (entries.find? fun (k, _) => g.isKey key k).map (·.2)

/-- The node that keys lead to, from node `i` on.  Only mappings are entered, not aliases. -/
def walk (g : Graph) (i : Nat) : List String → Except Lost Nat
  | [] => .ok i
  | key :: keys =>
    match g[i]? with
    | some (.mapping _ _ entries) =>
      match g.valueOf? key entries with
      | some j => walk g j keys
      | none => .error (.noKey key)
    | some node => .error (.notAMapping key node.kind)
    | none => .error (.noKey key)

end Graph

end Transclude.Yaml
