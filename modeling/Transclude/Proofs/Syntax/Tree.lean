import Transclude.Syntax.Tree

/-!
# Syntax trees

What holds of a node if it holds of those directly below holds of all nodes (`Node.induct`).

What is read off a syntax tree fails with faults only: a piece of the text is not text by itself
(`faultsIn_slice`), or a node is as high as calls may be deep (`faultsIn_findBelow`).
-/

namespace Transclude

/-- Every failure that there may be is a fault, and one of those in `P`. -/
def FaultsIn {α : Type} (P : Fault → Prop) (r : Except Failure α) : Prop :=
  ∀ e, r = .error e → ∃ f, e = .fault f ∧ P f

namespace FaultsIn

variable {α β : Type} {P Q : Fault → Prop} {r : Except Failure α}

/-- What succeeds has no faults. -/
theorem ok (x : α) : FaultsIn P (.ok x) := fun e he => by cases he

/-- A fault is among those that are allowed. -/
theorem fault {f : Fault} (h : P f) : FaultsIn P (.error (.fault f) : Except Failure α) := by
  intro e he
  cases he
  exact ⟨f, rfl, h⟩

/-- Steps with faults of a kind can be made after each other. -/
theorem bind (h : FaultsIn P r) {f : α → Except Failure β} (hf : ∀ x, FaultsIn P (f x)) :
    FaultsIn P (r >>= f) := by
  intro e he
  cases r with
  | ok x => exact hf x e he
  | error e' =>
    cases he
    exact h e rfl

/-- More faults may be allowed. -/
theorem mono (h : FaultsIn P r) (hPQ : ∀ f, P f → Q f) : FaultsIn Q r := by
  intro e he
  obtain ⟨f, rfl, hf⟩ := h e he
  exact ⟨f, rfl, hPQ f hf⟩

end FaultsIn

namespace Syntax

/-! ## Nodes and those below -/

/-- What holds of a node if it holds of the nodes directly below holds of every node. -/
theorem Node.induct {P : Node → Prop} (step : ∀ n : Node, (∀ c ∈ n.children, P c) → P n) :
    ∀ n, P n
  | .mk type named field start stop children =>
    step (.mk type named field start stop children) fun c _ => Node.induct step c
termination_by n => sizeOf n
decreasing_by
  have := List.sizeOf_lt_of_mem ‹c ∈ children›
  simp only [Node.mk.sizeOf_spec]
  omega

/-- The family of a node is the node and the families of its children. -/
theorem Node.family_eq (parent : Option Node) (n : Node) :
    n.family parent = ⟨n, parent⟩ :: families (some n) n.children := by
  cases n
  rfl

/-- Families are those of the nodes, one after the other. -/
theorem families_eq_flatMap (parent : Option Node) (ns : List Node) :
    families parent ns = ns.flatMap (·.family parent) := by
  induction ns with
  | nil => rfl
  | cons n ns ih => rw [families, ih, List.flatMap_cons]

/-- A node is in its family. -/
theorem Node.self_mem_family (parent : Option Node) (n : Node) : ⟨n, parent⟩ ∈ n.family parent := by
  rw [Node.family_eq]
  exact List.mem_cons_self

/-- What is below a node directly below is below the node. -/
theorem mem_family_of_mem_children {parent : Option Node} {n c : Node} {l : Located}
    (hc : c ∈ n.children) (hl : l ∈ c.family (some n)) : l ∈ n.family parent := by
  rw [Node.family_eq, families_eq_flatMap]
  exact List.mem_cons_of_mem _ (List.mem_flatMap.2 ⟨c, hc, hl⟩)

/-- What is below a node that is below another one is below that. -/
theorem Node.family_subset {parent : Option Node} {n : Node} {l : Located}
    (hl : l ∈ n.family parent) : l.node.family l.parent ⊆ n.family parent := by
  -- The node itself, or one below a child.
  induction n using Node.induct generalizing parent with
  | step n ih =>
    rw [Node.family_eq, families_eq_flatMap] at hl
    rcases List.mem_cons.1 hl with rfl | hl
    · exact List.Subset.refl _
    · obtain ⟨c, hc, hl⟩ := List.mem_flatMap.1 hl
      exact fun l' hl' => mem_family_of_mem_children hc (ih c hc hl hl')

/-- The children of a node of a tree are nodes of the tree. -/
theorem mem_located_of_mem_children {tree : Tree} {l : Located} {c : Node} (hl : l ∈ tree.located)
    (hc : c ∈ l.node.children) : ⟨c, some l.node⟩ ∈ tree.located :=
  Node.family_subset hl (mem_family_of_mem_children hc (c.self_mem_family _))

/-- The node above a node of a tree is a node of the tree. -/
theorem Node.parent_mem_family {parent : Option Node} {n p : Node} {l : Located}
    (hl : l ∈ n.family parent) (hp : l.parent = some p) :
    parent = some p ∨ ∃ above, ⟨p, above⟩ ∈ n.family parent := by
  -- The parent of the root is the one that was given.
  induction n using Node.induct generalizing parent with
  | step n ih =>
    rw [Node.family_eq, families_eq_flatMap] at hl
    rcases List.mem_cons.1 hl with rfl | hl
    · exact .inl hp
    · obtain ⟨c, hc, hl⟩ := List.mem_flatMap.1 hl
      refine .inr ?_
      rcases ih c hc hl with hn | ⟨above, hmem⟩
      · cases hn
        exact ⟨parent, p.self_mem_family parent⟩
      · exact ⟨above, mem_family_of_mem_children hc hmem⟩

/-- The parent of a node of a tree is a node of the tree. -/
theorem mem_located_of_parent {tree : Tree} {l : Located} {p : Node} (hl : l ∈ tree.located)
    (hp : l.parent = some p) : ∃ above, ⟨p, above⟩ ∈ tree.located := by
  rcases Node.parent_mem_family hl hp with hnone | hmem
  · cases hnone
  · exact hmem

/-! ## Pieces of the text -/

/-- The fault of a piece of the bytes that is not text by itself. -/
def Garbled (bytes : ByteArray) (f : Fault) : Prop :=
  ∃ start stop fault, Text.decode (bytes.extract start stop) = .error fault ∧
    f = Fault.undecodable fault

/-- A slice goes wrong only if the bytes there are no UTF-8. -/
theorem faultsIn_slice (bytes : ByteArray) (start stop : Nat) :
    FaultsIn (Garbled bytes) (slice bytes start stop) := by
  unfold slice
  cases hdecode : Text.decode (bytes.extract start stop) with
  | ok text => exact .ok text
  | error fault => exact .fault ⟨start, stop, fault, hdecode, rfl⟩

/-! ## Nodes inside of each other -/

mutual

/-- How many nodes are inside of each other, from a node on. -/
def Node.height : Node → Nat
  | .mk _ _ _ _ _ children => heights children + 1

/-- How many nodes are inside of each other, from several nodes on. -/
def heights : List Node → Nat
  | [] => 0
  | node :: rest => max node.height (heights rest)

end

/-- A node is one higher than its highest child. -/
private theorem Node.height_eq (node : Node) : node.height = heights node.children + 1 := by
  cases node
  rfl

/-- A search among nodes fails only if the search below one of them does. -/
private theorem exists_of_findAmong_eq_error {type : String}
    {below : Node → Except Failure (Option Node)} {nodes : List Node} {e : Failure}
    (h : findAmong type below nodes = .error e) : ∃ node ∈ nodes, below node = .error e := by
  induction nodes with
  | nil => cases h
  | cons node rest ih =>
    have hrest : findAmong type below rest = .error e →
        ∃ node' ∈ node :: rest, below node' = .error e := by
      intro h
      obtain ⟨node', hmem, hbelow⟩ := ih h
      exact ⟨node', List.mem_cons_of_mem node hmem, hbelow⟩
    unfold findAmong at h
    split at h
    · split at h
      · cases h
      · cases hbelow : below node with
        | error e' =>
          rw [hbelow] at h
          cases h
          exact ⟨node, List.mem_cons_self, hbelow⟩
        | ok found =>
          rw [hbelow] at h
          cases found with
          | some found => cases h
          | none => exact hrest h
    · exact hrest h

/-- No node is higher than the highest of its list. -/
private theorem height_le_heights {node : Node} {nodes : List Node} (h : node ∈ nodes) :
    node.height ≤ heights nodes := by
  induction nodes with
  | nil => cases h
  -- The height of a child is one of those whose largest one is taken.
  | cons first rest ih =>
    rw [heights]
    rcases List.mem_cons.1 h with rfl | h
    · exact Nat.le_max_left _ _
    · exact Nat.le_trans (ih h) (Nat.le_max_right _ _)

/-- A search fails only in a node that is as high as calls may be deep. -/
private theorem findBelow_eq_error {type : String} {depth : Nat} {node : Node} {e : Failure}
    (h : node.findBelow type depth = .error e) :
    e = .fault Fault.tooDeep ∧ depth ≤ node.height := by
  -- A search that ends in an error has gone down as far as it may.
  induction depth generalizing node with
  | zero =>
    cases h
    exact ⟨rfl, Nat.zero_le _⟩
  | succ depth ih =>
    obtain ⟨child, hchild, hbelow⟩ := exists_of_findAmong_eq_error h
    obtain ⟨he, hdepth⟩ := ih hbelow
    rw [Node.height_eq]
    exact ⟨he, Nat.succ_le_succ (Nat.le_trans hdepth (height_le_heights hchild))⟩

/-- What is found among nodes is one of them, or it is found below one of them. -/
private theorem mem_of_findAmong {type : String} {below : Node → Except Failure (Option Node)}
    {nodes : List Node} {found : Node} (h : findAmong type below nodes = .ok (some found)) :
    found ∈ nodes ∧ found.type = type ∨ ∃ node ∈ nodes, below node = .ok (some found) := by
  induction nodes with
  | nil => cases h
  | cons node rest ih =>
    have hrest : findAmong type below rest = .ok (some found) →
        found ∈ node :: rest ∧ found.type = type ∨
          ∃ node' ∈ node :: rest, below node' = .ok (some found) := by
      intro h
      rcases ih h with ⟨hmem, htype⟩ | ⟨node', hmem, hbelow⟩
      · exact .inl ⟨List.mem_cons_of_mem node hmem, htype⟩
      · exact .inr ⟨node', List.mem_cons_of_mem node hmem, hbelow⟩
    unfold findAmong at h
    split at h
    · split at h
      · rename_i htype
        cases h
        exact .inl ⟨List.mem_cons_self, htype⟩
      · cases hbelow : below node with
        | error e =>
          rw [hbelow] at h
          cases h
        | ok found' =>
          rw [hbelow] at h
          cases found' with
          | some found' =>
            cases h
            exact .inr ⟨node, List.mem_cons_self, hbelow⟩
          | none => exact hrest h
    · exact hrest h

/-- What is found below a node is below it, and of the type that is looked for. -/
theorem mem_of_findBelow {type : String} {depth : Nat} {node found : Node} (parent : Option Node)
    (h : node.findBelow type depth = .ok (some found)) :
    (∃ above, ⟨found, above⟩ ∈ node.family parent) ∧ found.type = type := by
  induction depth generalizing node parent with
  | zero => cases h
  | succ depth ih =>
    rcases mem_of_findAmong h with ⟨hfound, htype⟩ | ⟨child, hchild, hbelow⟩
    · exact ⟨⟨some node, mem_family_of_mem_children hfound (found.self_mem_family _)⟩, htype⟩
    · obtain ⟨⟨above, habove⟩, htype⟩ := ih (some node) hbelow
      exact ⟨⟨above, mem_family_of_mem_children hchild habove⟩, htype⟩

/-- A search goes wrong only if the node is higher than calls may be deep. -/
theorem faultsIn_findBelow (type : String) (depth : Nat) (node : Node) :
    FaultsIn (fun f => f = Fault.tooDeep ∧ depth ≤ node.height) (node.findBelow type depth) := by
  intro e he
  obtain ⟨rfl, hdepth⟩ := findBelow_eq_error he
  exact ⟨_, rfl, rfl, hdepth⟩

end Syntax

end Transclude
