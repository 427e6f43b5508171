import Transclude.Proofs.Yaml.Graph.Inline

/-!
# Nodes that mean the same

Two nodes, each in a graph of its own, mean the same if along every path the same is found: a node
of the same kind with the same tag, the same content and as many parts, or nothing (`Same`).
Aliases on the way are passed over.

That is said of all paths, and there are infinitely many of them if the graph has a cycle.  It is
enough to have a relation between the nodes of the two graphs that every step keeps
(`Simulates.same`).  Letting a node refer past the aliases is such a step (`same_inlinedFrom`).
-/

namespace Transclude.Yaml

/-- What is alike to a node that is alike is alike. -/
private theorem Node.Alike.trans {l m n : Node} (h : l.Alike m) (h' : m.Alike n) : l.Alike n where
  kind := h'.kind.trans h.kind
  tag? := h'.tag?.trans h.tag?
  content? := h'.content?.trans h.content?
  length_children := h'.length_children.trans h.length_children

namespace Graph

variable {g g' g'' : Graph} {i i' i'' : Nat} {R : Nat → Nat → Prop}

/-- The node at the end of a path. -/
def nodeAt? (g : Graph) (i : Nat) (path : List Nat) : Option Node :=
  (g.follow i path).bind fun j => g[j]?

/-- Along every path the nodes say the same. -/
def Same (g : Graph) (i : Nat) (g' : Graph) (i' : Nat) : Prop :=
  ∀ path, Option.Rel Node.Alike (g.nodeAt? i path) (g'.nodeAt? i' path)

/-- Every node means the same as itself. -/
theorem Same.refl (g : Graph) (i : Nat) : Same g i g i := by
  intro path
  cases g.nodeAt? i path with
  | none => exact .none
  | some node => exact .some ⟨rfl, rfl, rfl, rfl⟩

/-- What means the same as a node that means the same means the same. -/
theorem Same.trans (h : Same g i g' i') (h' : Same g' i' g'' i'') : Same g i g'' i'' := by
  intro path
  have hfirst := h path
  have hsecond := h' path
  generalize g.nodeAt? i path = l, g'.nodeAt? i' path = m, g''.nodeAt? i'' path =
    n at hfirst hsecond ⊢
  cases hfirst with
  | none => cases hsecond; exact .none
  | some halike => cases hsecond with | some halike' => exact .some (halike.trans halike')

/-- Two nodes are alike, and what they refer to is related, aliases passed over. -/
def Agree (R : Nat → Nat → Prop) (g g' : Graph) (i i' : Nat) : Prop :=
  ∃ m n, g[i]? = some m ∧ g'[i']? = some n ∧ m.Alike n ∧
    List.Forall₂ (fun c c' => R (g.target c) (g'.target c')) m.children n.children

/-- Related nodes agree. -/
def Simulates (R : Nat → Nat → Prop) (g g' : Graph) : Prop := ∀ i i', R i i' → Agree R g g' i i'

/-- Related nodes mean the same. -/
theorem Simulates.same (h : Simulates R g g') (hR : R i i') : Same g i g' i' := by
  intro path
  induction path generalizing i i' with
  | nil =>
    obtain ⟨m, n, hm, hn, halike, -⟩ := h i i' hR
    simpa only [nodeAt?, follow, Option.bind_some, hm, hn] using Option.Rel.some halike
  | cons k path ih =>
    obtain ⟨m, n, hm, hn, -, hparts⟩ := h i i' hR
    simp only [nodeAt?, follow, partAt?, childrenOf, hm, hn, Option.map_some, Option.getD_some]
    -- The two lists of parts are equally long, so the place is in both or in neither.
    rcases Nat.lt_or_ge k m.children.length with hk | hk
    · have hk' : k < n.children.length := hparts.length_eq ▸ hk
      rw [List.getElem?_eq_getElem hk, List.getElem?_eq_getElem hk', Option.map_some,
        Option.map_some,
        Option.bind_some, Option.bind_some]
      exact ih ((List.forall₂_iff_get.1 hparts).2 k hk hk')
    · rw [List.getElem?_eq_none hk, List.getElem?_eq_none (hparts.length_eq ▸ hk)]
      exact .none

end Graph

end Transclude.Yaml
