import Transclude.Yaml.Extract

/-!
# Sound graphs

In the graph of a document every node refers to nodes of the same graph, and no alias
refers to another alias (`Sound`).
-/

namespace Transclude.Yaml

/-- The node stands for another one. -/
def Node.IsAlias : Node → Prop
  | .aliasOf _ => True
  | _ => False

namespace Graph

variable {g : Graph} {node : Node} {i j : Nat}

/-- There is a node with number `i`, and it is no alias. -/
def Solid (g : Graph) (i : Nat) : Prop := ∃ node, g[i]? = some node ∧ ¬node.IsAlias

/-- Nodes refer to nodes of the graph, and aliases to nodes that are none. -/
structure Sound (g : Graph) : Prop where
  closed (i : Nat) (node : Node) : g[i]? = some node → ∀ c ∈ node.children, c < g.size
  direct (i t : Nat) : g[i]? = some (.aliasOf t) → g.Solid t

/-- A node that is no alias is a node of the graph. -/
theorem Solid.lt_size (h : g.Solid i) : i < g.size := by
  obtain ⟨node, hnode, -⟩ := h
  exact (Array.getElem?_eq_some_iff.1 hnode).1

end Graph

end Transclude.Yaml
