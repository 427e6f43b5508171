import Mathlib.Data.List.Chain
import Mathlib.Data.List.Perm.Subperm
import Mathlib.Logic.Relation
import Transclude.Failure.Fault
import Transclude.Proofs.Action
import Transclude.Proofs.Yaml.Graph.OfTree

/-!
# Nodes without aliases

Letting a node refer past the aliases leaves no alias that could be reached, and changes nothing
about what is found along a path (`inlinedFrom_preserves`), also where nodes are shared and where an
alias stands inside of the node that it refers to.  It does not come to an end where nodes refer to
each other in a row that is as long as calls may be deep (`inlinedFrom_ladder`), and only there.

## Key results

- `exists_way`: calls that go too deep have gone along a way through as many nodes, none of
  them twice, since a node that is met again is not entered.
- `Inlining.Of`: at any time a node where it is done refers past the aliases of the
  first graph, and any other node is as it was.
- `Inlining.Covers`: what a call has entered is closed under references, as references
  are now.  A node that is entered in the middle of a cycle is not closed yet when it is
  met again, so the nodes that were there before the call are left out of this.
-/

namespace Transclude.Yaml

/-! ## Nodes with other references -/

namespace Node

/-- The tag of a node. -/
def tag? : Node → Option String
  | .aliasOf _ => none
  | .scalar tag .. => some tag
  | .sequence tag .. => some tag
  | .mapping tag .. => some tag

/-- The content of a scalar. -/
def content? : Node → Option Content
  | .scalar _ content _ => some content
  | _ => none

/-- The nodes say the same, and have as many parts. -/
structure Alike (m n : Node) : Prop where
  kind : n.kind = m.kind
  tag? : n.tag? = m.tag?
  content? : n.content? = m.content?
  length_children : n.children.length = m.children.length

variable {m : Node} {f : Nat → Nat}

/-- The children of a node with other children. -/
theorem children_mapChildren (f : Nat → Nat) (m : Node) :
    (m.mapChildren f).children = m.children.map f := by
  cases m with
  | mapping tag inFlow entries => simp [mapChildren, children, List.flatMap_map, List.map_flatMap]
  | aliasOf | scalar | sequence => rfl

/-- A node with other children is alike. -/
theorem alike_mapChildren (f : Nat → Nat) (m : Node) : m.Alike (m.mapChildren f) where
  kind := by cases m <;> rfl
  tag? := by cases m <;> rfl
  content? := by cases m <;> rfl
  length_children := by simp [children_mapChildren]

/-- A node is an alias or not, whatever its children are. -/
private theorem isAlias_mapChildren : (m.mapChildren f).IsAlias ↔ m.IsAlias := by
  cases m <;> exact Iff.rfl

end Node

namespace Graph

variable {g : Graph} {s s' s'' : Inlining} {i j depth : Nat} {is js : List Nat}

/-! ## References past the aliases -/

/-- A node refers to another one. -/
def Refers (g : Graph) (i j : Nat) : Prop := j ∈ g.childrenOf i

/-- The part of a node with number `n`, an alias passed over. -/
def partAt? (g : Graph) (i n : Nat) : Option Nat := (g.childrenOf i)[n]?.map g.target

/-- The node at the end of a path, which says which part to go on with at every node. -/
def follow (g : Graph) (i : Nat) : List Nat → Option Nat
  | [] => some i
  | n :: path => (g.partAt? i n).bind fun j => g.follow j path

/-- A node that is no alias is its own target. -/
theorem target_of_solid (h : g.Solid i) : g.target i = i := by
  obtain ⟨node, hnode, halias⟩ := h
  unfold target
  rw [hnode]
  cases node with
  | aliasOf t => exact absurd trivial halias
  | scalar | sequence | mapping => rfl

/-- The target of a node is no alias. -/
private theorem Sound.solid_target (h : g.Sound) (hi : i < g.size) : g.Solid (g.target i) := by
  have hnode := Array.getElem?_eq_getElem hi
  by_cases halias : (g[i]).IsAlias
  · cases ht : g[i] with
    | aliasOf t =>
      rw [ht] at hnode
      have htarget : g.target i = t := by
        unfold target
        rw [hnode]
      rw [htarget]
      exact h.direct i t hnode
    | scalar | sequence | mapping =>
      rw [ht] at halias
      exact halias.elim
  · have hsolid : g.Solid i := ⟨g[i], hnode, halias⟩
    rwa [target_of_solid hsolid]

/-- Children are nodes of the graph. -/
private theorem Sound.lt_size (h : g.Sound) {c : Nat} (hc : c ∈ g.childrenOf i) : c < g.size := by
  unfold childrenOf at hc
  cases hnode : g[i]? with
  | none => simp [hnode] at hc
  | some node =>
    simp only [hnode, Option.map_some, Option.getD_some] at hc
    exact h.closed i node hnode c hc

/-- What a node refers to when it refers past the aliases. -/
def partsOf (g : Graph) (i : Nat) : List Nat := (g.childrenOf i).map g.target

/-- Parts are no aliases. -/
theorem Sound.solid_of_mem_partsOf (h : g.Sound) {c : Nat} (hc : c ∈ g.partsOf i) : g.Solid c := by
  obtain ⟨c', hc', rfl⟩ := List.mem_map.1 hc
  exact h.solid_target (h.lt_size hc')

/-! ## On the way -/

/-- The graph is `g`, save that the nodes where it is done refer past the aliases. -/
structure Inlining.Of (s : Inlining) (g : Graph) : Prop where
  size_eq : s.nodes.size = g.size
  getElem? (j : Nat) :
    s.nodes[j]? = if j ∈ s.done then g[j]?.map (Node.mapChildren g.target) else g[j]?

/-- At the start nothing has been replaced. -/
private theorem Inlining.Of.start (g : Graph) : Inlining.Of { nodes := g } g := ⟨rfl, by simp⟩

/-- The aliases are where they were. -/
theorem Inlining.Of.target_eq (h : s.Of g) : s.nodes.target = g.target := by
  funext j
  -- Only nodes that are no aliases have changed, and those stand for themselves.
  unfold target
  rw [h.getElem? j]
  by_cases hj : j ∈ s.done
  · rw [if_pos hj]
    cases g[j]? with
    | none => rfl
    | some node => cases node <;> rfl
  · rw [if_neg hj]

/-- The children of a node that is done are its parts. -/
private theorem Inlining.Of.childrenOf_eq (h : s.Of g) (hj : j ∈ s.done) :
    s.nodes.childrenOf j = g.partsOf j := by
  unfold partsOf childrenOf
  rw [h.getElem? j, if_pos hj]
  cases g[j]? with
  | none => rfl
  | some node => simp [Node.children_mapChildren]

/-- A node that is no alias does not become one. -/
private theorem Inlining.Of.solid (h : s.Of g) (hj : g.Solid j) : s.nodes.Solid j := by
  obtain ⟨node, hnode, halias⟩ := hj
  by_cases hdone : j ∈ s.done
  · refine ⟨node.mapChildren g.target, ?_, ?_⟩
    · rw [h.getElem? j, if_pos hdone, hnode, Option.map_some]
    · rwa [Node.isAlias_mapChildren]
  · exact ⟨node, by rw [h.getElem? j, if_neg hdone, hnode], halias⟩

/-- Replacing the children of a node by its parts is a step of the inlining. -/
private theorem Inlining.Of.redirect (h : s.Of g) (hi : i ∉ s.done) : (s.redirect i).Of g := by
  constructor
  · show (s.nodes.modify i _).size = g.size
    rw [Array.size_modify, h.size_eq]
  · intro j
    show (s.nodes.modify i _)[j]? = if j ∈ i :: s.done then _ else _
    -- The new node is read off its own entry, and all others as before.
    rw [Array.getElem?_modify, h.getElem? j, h.target_eq]
    by_cases hij : i = j
    · -- The node itself, which is still as it was in `g`.
      subst hij
      simp [hi]
    · have hji : ¬j = i := fun he => hij he.symm
      simp [hij, hji]

/-! ## Calls -/

/-- A call that is made for some nodes: they are done, and what was not done before refers only to
    nodes that are done. -/
structure Inlining.Covers (g : Graph) (is : List Nat) (s s' : Inlining) : Prop where
  of : s'.Of g
  subset : s.done ⊆ s'.done
  mem : ∀ i ∈ is, i ∈ s'.done
  closed (j : Nat) : j ∈ s'.done → j ∉ s.done → ∀ c ∈ g.partsOf j, c ∈ s'.done

/-- There is nothing to cover without nodes. -/
private theorem Inlining.Covers.nil (h : s.Of g) : Covers g [] s s :=
  ⟨h, fun _ hj => hj, by simp, fun _ hj hnot => absurd hj hnot⟩

/-- Nodes can be covered in two parts. -/
private theorem Inlining.Covers.append (h : Covers g is s s') (h' : Covers g js s' s'') :
    Covers g (is ++ js) s s'' := by
  constructor
  · exact h'.of
  · exact fun j hj => h'.subset (h.subset hj)
  · intro i hi
    rcases List.mem_append.1 hi with hi | hi
    · exact h'.subset (h.mem i hi)
    · exact h'.mem i hi
  · intro j hj hnot c hc
    by_cases hfirst : j ∈ s'.done
    · exact h'.subset (h.closed j hfirst hnot c hc)
    · exact h'.closed j hj hfirst c hc

/-- Entering a node covers it, when its parts have been covered after it was marked. -/
theorem Inlining.Covers.enter (h : Covers g (g.partsOf i) (s.redirect i) s') :
    Covers g [i] s s' := by
  -- The node is marked before its parts are, so it is among what is done.
  have hself : i ∈ s'.done := h.subset List.mem_cons_self
  constructor
  · exact h.of
  · exact fun j hj => h.subset (List.mem_cons_of_mem i hj)
  · simpa using hself
  · intro j hj hnot c hc
    by_cases hij : j = i
    · subst hij
      exact h.mem c hc
    · have hnot' : j ∉ (s.redirect i).done := by simp [Inlining.redirect, hij, hnot]
      exact h.closed j hj hnot' c hc

/-- Calls for nodes in turn cover them if every one of them does. -/
private theorem covers_of_enterAll {call : Nat → Inlining → Option Inlining}
    (hcall : ∀ i s s', s.Of g → i < g.size → call i s = some s' → s.Covers g [i] s')
    (h : s.Of g) (his : ∀ i ∈ is, i < g.size) (henter : enterAll call is s = some s') :
    s.Covers g is s' := by
  induction is generalizing s with
  | nil =>
    rw [enterAll] at henter
    cases henter
    exact .nil h
  | cons i is ih =>
    rw [List.forall_mem_cons] at his
    simp only [enterAll, Option.bind_eq_bind, Option.bind_eq_some_iff] at henter
    obtain ⟨s₁, hfirst, hrest⟩ := henter
    have hcovers := hcall i s s₁ h his.1 hfirst
    exact hcovers.append (ih hcovers.of his.2 hrest)

/-- A call that ends has covered its node. -/
private theorem covers_of_enter (hg : g.Sound) (h : s.Of g) (hi : i < g.size)
    (henter : enter depth i s = some s') : s.Covers g [i] s' := by
  induction depth generalizing i s s' with
  | zero => rw [enter] at henter; cases henter
  | succ depth ih =>
    -- The node is entered once, however often it is met.
    by_cases hdone : i ∈ s.done
    · -- Met again: nothing is done.
      simp only [enter, List.contains_iff_mem, hdone, if_true, Option.some.injEq] at henter
      subst henter
      exact ⟨h, List.Subset.refl _, by simpa using hdone, fun _ hj hnot => absurd hj hnot⟩
    · have hof := h.redirect hdone
      simp only [enter, List.contains_iff_mem, hdone, if_false,
        hof.childrenOf_eq List.mem_cons_self] at henter
      refine Inlining.Covers.enter (covers_of_enterAll (fun i s s' => ih) hof ?_ henter)
      exact fun c hc => (hg.solid_of_mem_partsOf hc).lt_size

/-! ## Calls that go too deep -/

/-- A way from a node on leads from node to node, past the aliases, and never to the same node
    twice. -/
structure IsWay (g : Graph) (i : Nat) (way : List Nat) : Prop where
  head : ∀ j ∈ way.head?, j = i
  chain : way.IsChain fun j k => k ∈ g.partsOf j
  nodup : way.Nodup

/-- If calls for nodes in turn do not end, one of them does not. -/
private theorem exists_enter_eq_none (hg : g.Sound) (h : s.Of g) (his : ∀ i ∈ is, i < g.size)
    (henter : enterAll (enter depth) is s = none) :
    ∃ i ∈ is, ∃ t : Inlining, t.Of g ∧ s.done ⊆ t.done ∧ enter depth i t = none := by
  -- The first call that does not end is met in the state that the calls before it leave.
  induction is generalizing s with
  | nil => rw [enterAll] at henter; cases henter
  | cons i is ih =>
    rw [List.forall_mem_cons] at his
    cases hfirst : enter depth i s with
    | none => exact ⟨i, List.mem_cons_self, s, h, List.Subset.refl _, hfirst⟩
    | some s₁ =>
      simp only [enterAll, hfirst] at henter
      have hcovers := covers_of_enter hg h his.1 hfirst
      obtain ⟨j, hj, t, ht, hsubset, hnone⟩ := ih hcovers.of his.2 henter
      exact ⟨j, List.mem_cons_of_mem i hj, t, ht, List.Subset.trans hcovers.subset hsubset, hnone⟩

/-- A call that does not end has gone along a way that is as long as calls may be deep, through
    nodes that had not been entered before. -/
private theorem exists_way (hg : g.Sound) (h : s.Of g) (hi : i < g.size)
    (henter : enter depth i s = none) :
    ∃ way, g.IsWay i way ∧ way.length = depth ∧ ∀ j ∈ way, j ∉ s.done := by
  induction depth generalizing i s with
  | zero => exact ⟨[], ⟨by simp, .nil, .nil⟩, rfl, by simp⟩
  | succ depth ih =>
    by_cases hdone : i ∈ s.done
    · simp only [enter, List.contains_iff_mem, hdone, if_true] at henter
      cases henter
    · have hof := h.redirect hdone
      have hparts : ∀ c ∈ g.partsOf i, c < g.size :=
        fun c hc => (hg.solid_of_mem_partsOf hc).lt_size
      simp only [enter, List.contains_iff_mem, hdone, if_false,
        hof.childrenOf_eq List.mem_cons_self] at henter
      obtain ⟨c, hc, t, ht, hsubset, hnone⟩ := exists_enter_eq_none hg hof hparts henter
      obtain ⟨way, hway, hlength, hfresh⟩ := ih ht (hparts c hc) hnone
      -- The node itself has been marked before its parts were entered.
      have hself : i ∉ way := fun hmem => hfresh i hmem (hsubset List.mem_cons_self)
      refine ⟨i :: way, ⟨by simp, ?_, List.nodup_cons.2 ⟨hself, hway.nodup⟩⟩,
        by rw [List.length_cons, hlength], ?_⟩
      · refine List.isChain_cons.2 ⟨fun j hj => ?_, hway.chain⟩
        rw [hway.head j hj]
        exact hc
      · rw [List.forall_mem_cons]
        exact ⟨hdone, fun j hj hold => hfresh j hj (hsubset (List.mem_cons_of_mem i hold))⟩

/-- A way goes through nodes of the graph, so it is not longer than there are nodes. -/
private theorem IsWay.length_le (hg : g.Sound) (hi : i < g.size) {way : List Nat}
    (h : g.IsWay i way) : way.length ≤ g.size := by
  have hmem : ∀ j ∈ way, j < g.size := by
    cases way with
    | nil => simp
    | cons j way =>
      obtain rfl := h.head j rfl
      rw [List.forall_mem_cons]
      refine ⟨hi, fun k hk => ?_⟩
      -- Every node behind the first one is a part of the node in front of it.
      obtain ⟨front, back, rfl⟩ := List.append_of_mem hk
      have hchain := h.chain
      rw [← List.cons_append, List.isChain_append] at hchain
      have hlast := List.getLast?_eq_some_getLast (List.cons_ne_nil j front)
      exact (hg.solid_of_mem_partsOf (hchain.2.2 _ hlast k rfl)).lt_size
  have hsubset : way ⊆ List.range g.size := fun j hj => List.mem_range.2 (hmem j hj)
  simpa using (h.nodup.subperm hsubset).length_le

/-! ## Afterwards -/

/-- What has been entered from the start is closed. -/
theorem Inlining.Covers.mem_done (h : Covers g [i] { nodes := g } s) (hj : j ∈ s.done) {c : Nat}
    (hc : c ∈ g.partsOf j) : c ∈ s.done := h.closed j hj (by simp) c hc

/-- Whatever can be reached has been entered, and is no alias. -/
theorem Inlining.Covers.solid_of_reaches (hg : g.Sound) (hi : g.Solid i)
    (h : Covers g [i] { nodes := g } s) (hj : Relation.ReflTransGen s.nodes.Refers i j) :
    j ∈ s.done ∧ g.Solid j := by
  induction hj with
  | refl => exact ⟨h.mem i (by simp), hi⟩
  | tail _ hrefers ih =>
    unfold Refers at hrefers
    rw [h.of.childrenOf_eq ih.1] at hrefers
    exact ⟨h.mem_done ih.1 hrefers, hg.solid_of_mem_partsOf hrefers⟩

/-- Once all is covered, the parts along a path are those of the graph before. -/
private theorem Inlining.Covers.partAt?_eq (hg : g.Sound) (h : Covers g [i] { nodes := g } s)
    (hj : j ∈ s.done) (n : Nat) : s.nodes.partAt? j n = g.partAt? j n := by
  unfold partAt?
  rw [h.of.childrenOf_eq hj, h.of.target_eq, partsOf, List.getElem?_map]
  cases hc : (g.childrenOf j)[n]? with
  | none => rfl
  | some c =>
    -- The reference leads past the alias already, so passing over it again does nothing.
    have hsolid := hg.solid_target (hg.lt_size (List.mem_of_getElem? hc))
    simp [target_of_solid hsolid]

/-- A path leads to the same node as before, and this node has been entered. -/
theorem Inlining.Covers.follow_eq (hg : g.Sound) (h : Covers g [i] { nodes := g } s)
    (hj : j ∈ s.done) (hsolid : g.Solid j) (path : List Nat) :
    s.nodes.follow j path = g.follow j path ∧
      ∀ k, g.follow j path = some k → k ∈ s.done ∧ g.Solid k := by
  -- The induction is on the path; the child at a place is the same in both graphs.
  induction path generalizing j with
  | nil =>
    refine ⟨rfl, fun k hk => ?_⟩
    cases hk
    exact ⟨hj, hsolid⟩
  | cons n path ih =>
    simp only [follow, h.partAt?_eq hg hj n]
    cases hpart : g.partAt? j n with
    | none => simp
    | some c =>
      have hc : c ∈ g.partsOf j := by
        obtain ⟨c', hc', rfl⟩ := Option.map_eq_some_iff.1 hpart
        exact List.mem_map_of_mem (List.mem_of_getElem? hc')
      exact ih (h.mem_done hj hc) (hg.solid_of_mem_partsOf hc)

/-- The nodes have been covered, when it has come to an end. -/
theorem exists_covers (hg : g.Sound) (hi : g.Solid i) {g' : Graph}
    (h : g.inlinedFrom depth i = some g') :
    ∃ s : Inlining, s.nodes = g' ∧ Inlining.Covers g [i] { nodes := g } s := by
  obtain ⟨s, henter, hnodes⟩ := Option.map_eq_some_iff.1 h
  exact ⟨s, hnodes, covers_of_enter hg (.start g) hi.lt_size henter⟩

/-- Letting a node refer past the aliases comes to an end if calls may be deeper than there are
    nodes, and does not only if there is a way that is as long as calls may be deep.  Once it has
    come to an end, no alias can be reached from the node, and every path from it leads to a node
    that says the same as before. -/
theorem inlinedFrom_preserves (hg : g.Sound) (hi : g.Solid i) (depth : Nat) :
    (g.size < depth → ∃ g', g.inlinedFrom depth i = some g') ∧
      (g.inlinedFrom depth i = none → ∃ way, g.IsWay i way ∧ way.length = depth) ∧
      ∀ g', g.inlinedFrom depth i = some g' →
        (∀ j, Relation.ReflTransGen g'.Refers i j → g'.Solid j) ∧
          ∀ path, g'.follow i path = g.follow i path ∧
            ∀ j, g.follow i path = some j →
              ∃ m n, g[j]? = some m ∧ g'[j]? = some n ∧ m.Alike n := by
  have hnone : g.inlinedFrom depth i = none → ∃ way, g.IsWay i way ∧ way.length = depth := by
    intro hnone
    -- A depth that runs out leaves a way of that length behind.
    obtain ⟨way, hway, hlength, -⟩ :=
      exists_way hg (.start g) hi.lt_size (Option.map_eq_none_iff.1 hnone)
    exact ⟨way, hway, hlength⟩
  -- A way has no more nodes than the graph, so a larger depth cannot run out.
  refine ⟨fun hdepth => ?_, hnone, fun g' hg' => ?_⟩
  · cases hinline : g.inlinedFrom depth i with
    | some g' => exact ⟨g', rfl⟩
    | none =>
      obtain ⟨way, hway, hlength⟩ := hnone hinline
      have hle := hway.length_le hg hi.lt_size
      omega
  · obtain ⟨s, rfl, hcovers⟩ := exists_covers hg hi hg'
    refine ⟨fun j hj => ?_, fun path => ?_⟩
    · exact hcovers.of.solid (hcovers.solid_of_reaches hg hi hj).2
    -- Following the path in the new graph leads to the same node.
    · obtain ⟨heq, hend⟩ := hcovers.follow_eq hg (hcovers.mem i (by simp)) hi path
      refine ⟨heq, fun j hj => ?_⟩
      obtain ⟨hdone, m, hm, -⟩ := hend j hj
      refine ⟨m, m.mapChildren g.target, hm, ?_, Node.alike_mapChildren _ m⟩
      rw [hcovers.of.getElem? j, if_pos hdone, hm, Option.map_some]

/-- A mapping that is its own value, and stands in a sequence below itself. -/
def cycleText : String := "&a\nb: *a\nc: [*a, 1]\n"

/-- The graph of `cycleText`. -/
def cycleGraph : Graph :=
  #[.mapping Tag.map false [(1, 2), (3, 4)], .scalar Tag.str (Content.ofChars ['b']) .plain,
    .aliasOf 0, .scalar Tag.str (Content.ofChars ['c']) .plain, .sequence Tag.seq true [5, 6],
    .aliasOf 0, .scalar (standardTag "int") (Content.ofChars ['1']) .plain]

/-- The graph of the cycle. -/
private theorem compose_cycleText : builtIn.compose cycleText = .ok (some (0, cycleGraph)) :=
  eq_ok_of_toOption (by decide +kernel)

/-- The path runs twice around the cycle and ends at the number. -/
theorem inlinedFrom_preserves_cycle :
    builtIn.compose cycleText = .ok (some (0, cycleGraph)) ∧ cycleGraph.Sound ∧
      cycleGraph.Solid 0 ∧ cycleGraph.follow 0 [1, 3, 0, 3, 1] = some 6 ∧
      ∃ g', cycleGraph.inlinedFrom Fault.callDepth 0 = some g' ∧
        (∀ j, Relation.ReflTransGen g'.Refers 0 j → g'.Solid j) ∧
        ∀ path, g'.follow 0 path = cycleGraph.follow 0 path ∧
          ∀ j, cycleGraph.follow 0 path = some j →
            ∃ m n, cycleGraph[j]? = some m ∧ g'[j]? = some n ∧ m.Alike n := by
  have hsound : cycleGraph.Sound := (sound_of_compose compose_cycleText).1
  have hsolid : cycleGraph.Solid 0 := ⟨_, rfl, id⟩
  obtain ⟨hends, -, hpreserves⟩ := inlinedFrom_preserves hsound hsolid Fault.callDepth
  obtain ⟨g', hg'⟩ := hends (by decide)
  exact ⟨compose_cycleText, hsound, hsolid, rfl, g', hg', hpreserves g' hg'⟩

/-! ## A ladder of aliases -/

/-- The node with number `j` of a sequence of sequences, where every inner sequence but the first
    one holds an alias for the one before. -/
def rung (n : Nat) : Nat → Node
  | 0 => .sequence Tag.seq true ((List.range (n + 1)).map fun k => 2 * k + 1)
  | 2 => .scalar Tag.str (Content.ofChars ['x']) .plain
  | j => if j % 2 = 1 then .sequence Tag.seq true [j + 1] else .aliasOf (j - 3)

/-- A sequence of `n + 1` sequences, each but the first one with an alias for the one before. -/
def ladder (n : Nat) : Graph := ((List.range (2 * n + 3)).map (rung n)).toArray

/-- The ladder is read off a text. -/
example : (builtIn.compose "[&a [x], &b [*a], &c [*b], [*c]]").toOption =
    some (some (0, ladder 3)) := by decide +kernel

/-- The nodes of the ladder. -/
private theorem getElem?_ladder {n j : Nat} (hj : j < 2 * n + 3) :
    (ladder n)[j]? = some (rung n j) := by
  simp [ladder, hj]

/-- Every second node is a sequence of the node behind it. -/
private theorem rung_odd (n k : Nat) : rung n (2 * k + 1) = .sequence Tag.seq true [2 * k + 2] := by
  have hodd : (2 * k + 1) % 2 = 1 := by omega
  unfold rung
  split
  · omega
  · omega
  · rw [if_pos hodd]

/-- Between the sequences there are aliases of the sequence before. -/
private theorem rung_even (n k : Nat) : rung n (2 * k + 4) = .aliasOf (2 * k + 1) := by
  have heven : ¬(2 * k + 4) % 2 = 1 := by omega
  unfold rung
  split
  · omega
  · omega
  · rw [if_neg heven]
    rfl

/-- The size of the ladder. -/
private theorem size_ladder (n : Nat) : (ladder n).size = 2 * n + 3 := by simp [ladder]

/-- The sequences of the ladder are no aliases. -/
private theorem solid_ladder {n k : Nat} (hk : k ≤ n) : (ladder n).Solid (2 * k + 1) :=
  ⟨_, by rw [getElem?_ladder (by omega), rung_odd], id⟩

/-- A number is the root of the ladder, one of its sequences, its scalar or one of its aliases. -/
private theorem rung_cases (j : Nat) :
    j = 0 ∨ j = 2 ∨ (∃ k, j = 2 * k + 1) ∨ ∃ k, j = 2 * k + 4 := by
  obtain ⟨k, hk | hk⟩ : ∃ k, j = 2 * k ∨ j = 2 * k + 1 := ⟨j / 2, by omega⟩
  · rcases k with _ | _ | k
    · exact .inl (by omega)
    · exact .inr (.inl (by omega))
    · exact .inr (.inr (.inr ⟨k, by omega⟩))
  · exact .inr (.inr (.inl ⟨k, hk⟩))

/-- The ladder is sound. -/
private theorem sound_ladder (n : Nat) : (ladder n).Sound := by
  have hlt : ∀ {j : Nat} {node : Node}, (ladder n)[j]? = some node → j < 2 * n + 3 := by
    intro j node hnode
    rw [← size_ladder]
    exact (Array.getElem?_eq_some_iff.1 hnode).1
  -- A node refers only to nodes of smaller numbers, and an alias to one that is none.
  constructor
  · intro j node hnode c hc
    have hj := hlt hnode
    rw [getElem?_ladder hj] at hnode
    cases hnode
    rw [size_ladder]
    rcases rung_cases j with rfl | rfl | ⟨k, rfl⟩ | ⟨k, rfl⟩
    · obtain ⟨k, hk, rfl⟩ := List.mem_map.1 hc
      have hkn := List.mem_range.1 hk
      omega
    · cases hc
    · rw [rung_odd] at hc
      obtain rfl := List.mem_singleton.1 hc
      omega
    · rw [rung_even] at hc
      cases hc
  · intro j t hnode
    have hj := hlt hnode
    rw [getElem?_ladder hj] at hnode
    rcases rung_cases j with rfl | rfl | ⟨k, rfl⟩ | ⟨k, rfl⟩
    · cases hnode
    · cases hnode
    · rw [rung_odd] at hnode
      cases hnode
    · rw [rung_even] at hnode
      cases hnode
      exact solid_ladder (by omega)

/-- The lowest sequence holds the scalar. -/
private theorem partsOf_ladder_zero (n : Nat) : (ladder n).partsOf 1 = [2] := by
  have hone := getElem?_ladder (n := n) (j := 1) (by omega)
  have htwo := getElem?_ladder (n := n) (j := 2) (by omega)
  simp [partsOf, childrenOf, target, hone, htwo, rung, Node.children]

/-- Every other sequence holds the one below it, past the alias. -/
private theorem partsOf_ladder_succ {n k : Nat} (hk : k < n) :
    (ladder n).partsOf (2 * (k + 1) + 1) = [2 * k + 1] := by
  have hself : (ladder n)[2 * (k + 1) + 1]? = some (.sequence Tag.seq true [2 * (k + 1) + 2]) := by
    rw [getElem?_ladder (by omega), rung_odd]
  have halias : (ladder n)[2 * (k + 1) + 2]? = some (.aliasOf (2 * k + 1)) := by
    have heq : 2 * (k + 1) + 2 = 2 * k + 4 := by omega
    rw [heq, getElem?_ladder (by omega), rung_even]
  simp [partsOf, childrenOf, target, hself, halias, Node.children]

/-- From a sequence of the ladder down, calls are as deep inside of each other as there are
    sequences below. -/
private theorem enter_ladder {n k : Nat} (hk : k ≤ n) (hdepth : depth ≤ k + 1)
    (h : s.Of (ladder n)) (hdone : ∀ j ∈ s.done, 2 * k + 1 < j) :
    enter depth (2 * k + 1) s = none := by
  induction depth generalizing k s with
  | zero => rw [enter]
  -- The depth is shorter than the ladder, so it runs out one rung below.
  | succ depth ih =>
    have hself : 2 * k + 1 ∉ s.done := fun hmem => absurd (hdone _ hmem) (by omega)
    have hof := h.redirect hself
    simp only [enter, List.contains_iff_mem, hself, if_false, hof.childrenOf_eq List.mem_cons_self]
    cases k with
    | zero =>
      obtain rfl : depth = 0 := by omega
      rw [Nat.mul_zero, Nat.zero_add, partsOf_ladder_zero]
      simp [enterAll, enter]
    | succ k =>
      rw [partsOf_ladder_succ (by omega)]
      have hrest : enter depth (2 * k + 1) (s.redirect (2 * (k + 1) + 1)) = none := by
        refine ih (by omega) (by omega) hof fun j hj => ?_
        rcases List.mem_cons.1 hj with rfl | hj
        · omega
        · have hlt := hdone j hj
          omega
      simp [enterAll, hrest]

/-- On a long ladder calls go too deep, and the aliases stay. -/
theorem inlinedFrom_ladder :
    (ladder 1500).Sound ∧ (ladder 1500).Solid 3001 ∧
      (ladder 1500).inlinedFrom Fault.callDepth 3001 = none := by
  have hdepth : Fault.callDepth ≤ 1500 + 1 := by decide
  have hnone := enter_ladder (Nat.le_refl 1500) hdepth (.start _) fun j hj => by cases hj
  have hsolid := solid_ladder (Nat.le_refl 1500)
  exact ⟨sound_ladder 1500, hsolid, Option.map_eq_none_iff.2 hnone⟩

end Graph

end Transclude.Yaml
