import Transclude.Proofs.Action
import Transclude.Proofs.Yaml.Graph
import Transclude.Yaml.BuiltIn

/-!
# The graphs that are read here

What the library of our own reads are sound graphs (`sound_of_compose`).

A graph is built from its root on.  A collection is added before its parts, without
them, and put in its place again when they are there; anchors are known from the moment
when their node is added.  So what is shown here holds of every graph on the way, and
one step for each form of a tree keeps it (`adds_addTree`).
-/

namespace Transclude.Yaml

namespace Graph

variable {g : Graph} {node : Node} {i j : Nat}

/-- There is nothing wrong with a graph without nodes. -/
private theorem Sound.empty : Sound #[] := ⟨by simp, by simp⟩

/-! ## Adding and replacing nodes -/

/-- A node that is no alias stays so when another one is added. -/
private theorem Solid.push (h : g.Solid i) (node : Node) : Solid (g.push node) i := by
  have hlt := h.lt_size
  obtain ⟨old, hold, halias⟩ := h
  exact ⟨old, by rw [Array.getElem?_push_lt hlt, ← Array.getElem?_eq_getElem hlt, hold], halias⟩

/-- The last node is no alias if it was none. -/
private theorem solid_push_size (h : ¬node.IsAlias) : Solid (g.push node) g.size :=
  ⟨node, by simp, h⟩

/-- A node may be added whose children are there and that is no alias of an alias. -/
private theorem Sound.push (h : g.Sound) (hchildren : ∀ c ∈ node.children, c < g.size)
    (halias : ∀ t, node = .aliasOf t → g.Solid t) : Sound (g.push node) := by
  constructor
  · intro j old hold c hc
    rw [Array.size_push]
    rw [Array.getElem?_push] at hold
    split at hold
    · cases hold
      have hlt := hchildren c hc
      omega
    · have hlt := h.closed j old hold c hc
      omega
  · intro j t hold
    rw [Array.getElem?_push] at hold
    split at hold
    · cases hold
      exact (halias t rfl).push _
    · exact (h.direct j t hold).push _

/-- Where one node that is no alias takes the place of another, nothing becomes an alias. -/
theorem Solid.set (h : g.Solid j) (hnode : ¬node.IsAlias) (i : Nat) :
    Solid (g.setIfInBounds i node) j := by
  have hlt := h.lt_size
  obtain ⟨old, hold, halias⟩ := h
  by_cases hij : i = j
  · exact ⟨node, by rw [hij, Array.getElem?_setIfInBounds_self_of_lt hlt], hnode⟩
  · exact ⟨old, by rw [Array.getElem?_setIfInBounds_ne hij, hold], halias⟩

/-- A node may be replaced by one whose children are there and that is no alias. -/
private theorem Sound.set (h : g.Sound) (hchildren : ∀ c ∈ node.children, c < g.size)
    (hnode : ¬node.IsAlias) (i : Nat) : Sound (g.setIfInBounds i node) := by
  constructor
  · intro j old hold c hc
    rw [Array.size_setIfInBounds]
    rw [Array.getElem?_setIfInBounds] at hold
    split at hold
    · split at hold
      · cases hold
        exact hchildren c hc
      · cases hold
    · exact h.closed j old hold c hc
  · intro j t hold
    rw [Array.getElem?_setIfInBounds] at hold
    split at hold
    · split at hold
      · cases hold
        exact absurd trivial hnode
      · cases hold
    · exact (h.direct j t hold).set hnode i

/-! ## Building -/

/-- A graph that is being built: what is there is sound, and anchors stand at nodes. -/
structure Builder.Sound (b : Builder) : Prop where
  nodes : b.nodes.Sound
  anchors : ∀ anchor ∈ b.anchors, b.nodes.Solid anchor.2

/-- A step adds nodes, among them those with the given numbers. -/
structure Adds (b : Builder) (numbers : List Nat) (b' : Builder) : Prop where
  sound : b'.Sound
  size_le : b.nodes.size ≤ b'.nodes.size
  lt_size : ∀ n ∈ numbers, n < b'.nodes.size

variable {b b' b'' : Builder} {numbers numbers' : List Nat}

/-- Nothing has been added at the start. -/
private theorem Adds.refl (h : b.Sound) : Adds b [] b := ⟨h, Nat.le_refl _, by simp⟩

/-- Nodes can be added in two parts. -/
private theorem Adds.append (h : Adds b numbers b') (h' : Adds b' numbers' b'') :
    Adds b (numbers ++ numbers') b'' := by
  have hsize := h.size_le
  have hsize' := h'.size_le
  refine ⟨h'.sound, by omega, fun n hn => ?_⟩
  rcases List.mem_append.1 hn with hn | hn
  · have hlt := h.lt_size n hn
    omega
  · exact h'.lt_size n hn

/-- An alias is added. -/
theorem adds_alias (h : b.Sound) {t : Nat} (ht : b.nodes.Solid t) :
    Adds b [b.nodes.size] (b.add (.aliasOf t)) := by
  constructor
  · constructor
    · apply h.nodes.push
      · simp [Node.children]
      · intro t' he
        cases he
        exact ht
    · exact fun anchor hanchor => (h.anchors anchor hanchor).push _
  · simp [Builder.add]
  · simp [Builder.add]

/-- A node with an anchor is added.  The anchor is known before the node is there. -/
theorem adds_anchored (node : Node) (h : b.Sound) {anchor? : Option String}
    (ha : b.anchor anchor? = .ok b')
    (hchildren : ∀ c ∈ node.children, c < b.nodes.size) (hnode : ¬node.IsAlias) :
    Adds b [b'.nodes.size] (b'.add node) := by
  -- An anchor adds no node, only a name for the next one.
  have hnodes : b'.nodes = b.nodes := by
    cases anchor? with
    | none => cases ha; rfl
    | some name =>
      simp only [Builder.anchor] at ha
      split at ha
      · cases ha
      · cases ha; rfl
  have hanchors : ∀ anchor ∈ b'.anchors, anchor ∈ b.anchors ∨ anchor.2 = b.nodes.size := by
    cases anchor? with
    | none => cases ha; exact fun anchor hanchor => .inl hanchor
    | some name =>
      simp only [Builder.anchor] at ha
      split at ha
      · cases ha
      · cases ha
        intro anchor hanchor
        rcases List.mem_cons.1 hanchor with rfl | hanchor
        · exact .inr rfl
        · exact .inl hanchor
  constructor
  · constructor
    · show Sound (b'.nodes.push node)
      rw [hnodes]
      apply h.nodes.push hchildren
      intro t he
      rw [he] at hnode
      exact absurd trivial hnode
    · intro anchor hanchor
      show Solid (b'.nodes.push node) anchor.2
      rw [hnodes]
      rcases hanchors anchor hanchor with hold | hnew
      · exact (h.anchors anchor hold).push _
      · rw [hnew]
        exact solid_push_size hnode
  · simp [Builder.add, hnodes]
  · simp [Builder.add]

/-- The parts of a collection have been added, and the collection is put in its place again. -/
theorem Adds.put (h : Adds b [i] b') (hparts : Adds b' numbers b'')
    (hchildren : ∀ c ∈ node.children, c ∈ numbers) (hnode : ¬node.IsAlias) :
    Adds b [i] (b''.put i node) := by
  have hall := h.append hparts
  constructor
  · constructor
    · exact hparts.sound.nodes.set (fun c hc => hparts.lt_size c (hchildren c hc)) hnode i
    · exact fun anchor hanchor => (hparts.sound.anchors anchor hanchor).set hnode i
  · simpa [Builder.put] using hall.size_le
  · simpa [Builder.put] using hall.lt_size i (by simp)

/-- The numbers in some entries, keys before values. -/
def numbersOf (entries : List (Nat × Nat)) : List Nat :=
  entries.flatMap fun (key, value) => [key, value]

mutual

/-- A tree is added as one node with all that is below it. -/
private theorem adds_addTree {b b' : Builder} (h : b.Sound) {tree : Tree} {i : Nat}
    (hadd : addTree b tree = .ok (i, b')) : Adds b [i] b' := by
  cases tree with
  | aliasOf name =>
    simp only [addTree] at hadd
    split at hadd
    · cases hadd
    · rename_i t ht
      cases hadd
      obtain ⟨before, after, hanchors, -⟩ := List.lookup_eq_some_iff.1 ht
      exact adds_alias h (h.anchors (name, t) (by simp [hanchors]))
  | scalar marks content style =>
    simp only [addTree] at hadd
    obtain ⟨b₁, ha, hadd⟩ := except_bind_eq_ok_iff.1 hadd
    cases hadd
    exact adds_anchored _ h ha (by simp [Node.children]) id
  | sequence marks inFlow items =>
    simp only [addTree] at hadd
    obtain ⟨b₁, ha, hadd⟩ := except_bind_eq_ok_iff.1 hadd
    obtain ⟨⟨is, b₂⟩, hitems, hadd⟩ := except_bind_eq_ok_iff.1 hadd
    cases hadd
    have hself := adds_anchored (.sequence (Tag.ofCollection marks.tag Tag.seq) inFlow [])
      h ha (by simp [Node.children]) id
    exact hself.put (adds_addItems hself.sound hitems) (fun _ hc => hc) id
  | mapping marks inFlow entries =>
    simp only [addTree] at hadd
    obtain ⟨b₁, ha, hadd⟩ := except_bind_eq_ok_iff.1 hadd
    obtain ⟨⟨es, b₂⟩, hentries, hadd⟩ := except_bind_eq_ok_iff.1 hadd
    cases hadd
    have hself := adds_anchored (.mapping (Tag.ofCollection marks.tag Tag.map) inFlow [])
      h ha (by simp [Node.children]) id
    exact hself.put (adds_addEntries hself.sound hentries) (fun _ hc => hc) id

/-- The items of a sequence are added. -/
theorem adds_addItems {b b' : Builder} (h : b.Sound) {items : List Tree} {is : List Nat}
    (hadd : addItems b items = .ok (is, b')) : Adds b is b' := by
  cases items with
  | nil =>
    cases hadd
    exact .refl h
  | cons tree items =>
    simp only [addItems] at hadd
    obtain ⟨⟨i, b₁⟩, htree, hadd⟩ := except_bind_eq_ok_iff.1 hadd
    obtain ⟨⟨is', b₂⟩, hitems, hadd⟩ := except_bind_eq_ok_iff.1 hadd
    cases hadd
    have hfirst := adds_addTree h htree
    -- The other items are added to what the first one leaves.
    exact hfirst.append (adds_addItems hfirst.sound hitems)

/-- The keys and values of a mapping are added. -/
theorem adds_addEntries {b b' : Builder} (h : b.Sound) {entries : List (Tree × Tree)}
    {es : List (Nat × Nat)} (hadd : addEntries b entries = .ok (es, b')) :
    Adds b (numbersOf es) b' := by
  cases entries with
  | nil =>
    cases hadd
    exact .refl h
  | cons entry entries =>
    obtain ⟨key, value⟩ := entry
    simp only [addEntries] at hadd
    obtain ⟨⟨k, b₁⟩, hkey, hadd⟩ := except_bind_eq_ok_iff.1 hadd
    obtain ⟨⟨v, b₂⟩, hvalue, hadd⟩ := except_bind_eq_ok_iff.1 hadd
    obtain ⟨⟨es', b₃⟩, hentries, hadd⟩ := except_bind_eq_ok_iff.1 hadd
    cases hadd
    have hfirst := adds_addTree h hkey
    have hsecond := adds_addTree hfirst.sound hvalue
    exact (hfirst.append hsecond).append (adds_addEntries hsecond.sound hentries)

end

/-- The graph of a tree is sound, and its root is a node. -/
private theorem sound_of_ofTree {tree : Tree} {root : Nat} (h : ofTree tree = .ok (root, g)) :
    g.Sound ∧ root < g.size := by
  unfold ofTree at h
  obtain ⟨⟨i, b⟩, hadd, h⟩ := except_bind_eq_ok_iff.1 h
  cases h
  have hempty : Builder.Sound {} := ⟨.empty, by simp⟩
  have hadds := adds_addTree hempty hadd
  exact ⟨hadds.sound.nodes, hadds.lt_size root (by simp)⟩

end Graph

/-- The graph of a document is sound, and its root is one of its nodes. -/
theorem sound_of_compose {text : String} {root : Nat} {g : Graph}
    (h : builtIn.compose text = .ok (some (root, g))) : g.Sound ∧ root < g.size := by
  change readGraph text = .ok (some (root, g)) at h
  unfold readGraph at h
  obtain ⟨tree?, -, h⟩ := except_bind_eq_ok_iff.1 h
  cases tree? with
  | none => cases h
  | some tree =>
    obtain ⟨composed, htree, h⟩ := except_bind_eq_ok_iff.1 h
    cases h
    exact Graph.sound_of_ofTree htree

end Transclude.Yaml
