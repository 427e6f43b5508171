import Transclude.Proofs.Syntax.Tree

/-!
# Nodes in other places

The nodes that a piece of text is read as elsewhere are the same nodes with other positions
(`Node.move`).  What is found below a node is found below the moved one (`findBelow_move`), and the
nodes of a moved tree are the moved nodes (`family_move`).
-/

namespace Transclude.Syntax

variable {place : Node → Nat × Nat} {n : Node} {ns : List Node} {parent : Option Node}

/-! ## Deciding -/

mutual

/-- Nodes can be compared. -/
def Node.decEq : (n m : Node) → Decidable (n = m)
  | .mk type named field start stop children, .mk type' named' field' start' stop' children' =>
    have := nodesDecEq children children'
    decidable_of_iff (type = type' ∧ named = named' ∧ field = field' ∧ start = start' ∧
      stop = stop' ∧ children = children') (by simp only [Node.mk.injEq])

/-- Nodes in turn can be compared. -/
def nodesDecEq : (ns ms : List Node) → Decidable (ns = ms)
  | [], [] => .isTrue rfl
  | [], _ :: _ => .isFalse (List.cons_ne_nil _ _).symm
  | _ :: _, [] => .isFalse (List.cons_ne_nil _ _)
  | n :: ns, m :: ms =>
    have := Node.decEq n m
    have := nodesDecEq ns ms
    decidable_of_iff (n = m ∧ ns = ms) (by simp only [List.cons.injEq])

end

instance : DecidableEq Node := Node.decEq

/-! ## Moving -/

mutual

/-- The node and the nodes below it in other places.  The places may depend on the nodes. -/
def Node.move (place : Node → Nat × Nat) : Node → Node
  | .mk type named field start stop children =>
    let there := place (.mk type named field start stop children)
    .mk type named field there.1 there.2 (moveAll place children)

/-- Several nodes in other places. -/
def moveAll (place : Node → Nat × Nat) : List Node → List Node
  | [] => []
  | n :: ns => n.move place :: moveAll place ns

end

/-- Nodes are moved one by one. -/
private theorem moveAll_eq_map (ns : List Node) : moveAll place ns = ns.map (Node.move place) := by
  induction ns with
  | nil => rfl
  | cons n ns ih => rw [moveAll, ih, List.map_cons]

namespace Node

@[simp] theorem type_move (n : Node) : (n.move place).type = n.type := by
  cases n
  rfl

@[simp] theorem named_move (n : Node) : (n.move place).named = n.named := by
  cases n
  rfl

@[simp] theorem field_move (n : Node) : (n.move place).field = n.field := by
  cases n
  rfl

@[simp] theorem start_move (n : Node) : (n.move place).start = (place n).1 := by
  cases n
  rfl

@[simp] theorem stop_move (n : Node) : (n.move place).stop = (place n).2 := by
  cases n
  rfl

@[simp] theorem children_move (n : Node) :
    (n.move place).children = n.children.map (Node.move place) := by
  cases n
  exact moveAll_eq_map _

end Node

/-- A node in another place, with the node above in another place. -/
def Located.move (place : Node → Nat × Nat) (l : Located) : Located :=
  ⟨l.node.move place, l.parent.map (Node.move place)⟩

@[simp] theorem Located.node_move (l : Located) : (l.move place).node = l.node.move place := rfl

@[simp] theorem Located.parent_move (l : Located) :
    (l.move place).parent = l.parent.map (Node.move place) := rfl

/-- The nodes from a moved node on are the moved nodes. -/
theorem family_move (parent : Option Node) (n : Node) :
    (n.move place).family (parent.map (Node.move place)) =
      (n.family parent).map (Located.move place) := by
  -- The induction is on the tree; below each child the parent is the moved node.
  induction n using Node.induct generalizing parent with
  | step n ih =>
    have hbelow : families (some (n.move place)) (n.move place).children =
        (families (some n) n.children).map (Located.move place) := by
      rw [Node.children_move, families_eq_flatMap, families_eq_flatMap, List.flatMap_map,
        List.map_flatMap, List.flatMap_def, List.flatMap_def]
      exact congrArg List.flatten (List.map_congr_left fun c hc => ih c hc (some n))
    rw [Node.family_eq, Node.family_eq, hbelow]
    rfl

/-- The nodes from a moved node on are the moved ones, whatever is above it. -/
theorem exists_of_mem_family_move {l : Located} (parent : Option Node)
    (hl : l ∈ (n.move place).family parent) (above : Option Node) :
    ∃ l' ∈ n.family above, l.node = l'.node.move place := by
  -- What is not the node itself lies below it.
  rw [Node.family_eq] at hl
  rcases List.mem_cons.1 hl with rfl | hl
  · exact ⟨⟨n, above⟩, n.self_mem_family above, rfl⟩
  · have hmem : l ∈ (n.move place).family (above.map (Node.move place)) := by
      rw [Node.family_eq]
      exact List.mem_cons_of_mem _ hl
    rw [family_move] at hmem
    obtain ⟨l', hl', rfl⟩ := List.mem_map.1 hmem
    exact ⟨l', hl', rfl⟩

/-- A search among moved nodes finds the moved node. -/
private theorem findAmong_move {type : String} {below : Node → Except Failure (Option Node)}
    (hbelow : ∀ n, below (n.move place) = (below n).map (Option.map (Node.move place)))
    (ns : List Node) :
    findAmong type below (ns.map (Node.move place)) =
      (findAmong type below ns).map (Option.map (Node.move place)) := by
  induction ns with
  | nil => rfl
  | cons n ns ih =>
    rw [List.map_cons, findAmong, findAmong, Node.named_move, Node.type_move, hbelow n, ih]
    -- Only named nodes count, and the ones below them are searched next.
    by_cases hnamed : n.named = true
    · rw [if_pos hnamed, if_pos hnamed]
      by_cases htype : n.type = type
      · rw [if_pos htype, if_pos htype]
        rfl
      · rw [if_neg htype, if_neg htype]
        cases below n with
        | error e => rfl
        | ok found => cases found <;> rfl
    · rw [if_neg hnamed, if_neg hnamed]

/-- What is found below a node is found below the moved node. -/
theorem findBelow_move (type : String) (depth : Nat) (n : Node) :
    (n.move place).findBelow type depth =
      (n.findBelow type depth).map (Option.map (Node.move place)) := by
  induction depth generalizing n with
  | zero => rfl
  | succ depth ih =>
    rw [Node.findBelow, Node.findBelow, Node.children_move]
    exact findAmong_move ih n.children

end Transclude.Syntax
