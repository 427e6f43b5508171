import Transclude.Proofs.Go.Shape
import Transclude.Proofs.Syntax.Tree

/-!
# Declarations inside of declarations

The nodes of a tree that declare something with a body in braces (`declares`) start one behind the
other, and each ends before the next one starts or behind its end (`pairwise_before`).  A type that
stands for itself starts at the keyword in front of it, so its start belongs to the node above.
-/

namespace Transclude.Go

open Syntax (Node Located families Node.family_eq families_eq_flatMap mem_family_of_mem_children)

variable {l l' : Located} {n c : Node} {ns : List Node} {parent : Option Node} {start stop : Nat}

/-! ## Nodes that declare something -/

/-- The node is a function or a method with a block, or it is a type that is directly a struct or an
    interface. -/
def declares (n : Node) : Bool :=
  (n.type = "function_declaration" || n.type = "method_declaration") &&
      (parts ["body"] n).any (·.type = "block") ||
    n.type = "type_spec" &&
      (parts ["type"] n).any fun t => t.type = "struct_type" || t.type = "interface_type"

/-- The node is the declaration of a type in a group. -/
def inGroup (l : Located) : Bool := l.node.type = "type_spec" && l.parent.any grouped

/-- Where what a node declares starts.  A type outside of a group starts at the keyword. -/
def startOf (l : Located) : Nat :=
  if l.node.type = "type_spec" && !inGroup l then (l.parent.getD l.node).start else l.node.start

/-- A declaration starts in front of another one, and ends in front of it or behind its end. -/
def Before (l l' : Located) : Prop :=
  startOf l < startOf l' ∧ (l.node.stop ≤ startOf l' ∨ l'.node.stop ≤ l.node.stop)

/-! ## Nodes in turn -/

namespace Laid

/-- Nodes laid out between two positions leave the positions in order. -/
theorem le (h : Laid start ns stop) : start ≤ stop := by
  induction ns generalizing start with
  | nil => exact h
  | cons n ns ih =>
    obtain ⟨hstart, hle, hrest⟩ := h
    have := ih hrest
    omega

/-- Nodes laid out between two positions are between them. -/
theorem mem (h : Laid start ns stop) (hc : c ∈ ns) : start ≤ c.start ∧ c.stop ≤ stop := by
  induction ns generalizing start with
  | nil => cases hc
  | cons n ns ih =>
    obtain ⟨hstart, hle, hrest⟩ := h
    rcases List.mem_cons.1 hc with rfl | hc
    · exact ⟨hstart, hrest.le⟩
    · have := ih hrest hc
      omega

/-- Nodes laid out one after the other end before the next one starts. -/
theorem pairwise (h : Laid start ns stop) : ns.Pairwise fun c d => c.stop ≤ d.start := by
  induction ns generalizing start with
  | nil => exact .nil
  | cons n ns ih => exact .cons (fun d hd => (h.2.2.mem hd).1) (ih h.2.2)

end Laid

/-! ## Nodes inside of each other -/

/-- A node starts at its own place, or at that of the node above. -/
theorem startOf_eq_or (l : Located) :
    startOf l = l.node.start ∨ l.node.type = "type_spec" ∧
      ∃ p, l.parent = some p ∧ grouped p = false ∧ startOf l = p.start := by
  unfold startOf
  split
  -- The type is in no group, so the parent is not one either.
  · rename_i h
    simp only [inGroup, Bool.and_eq_true, decide_eq_true_eq, Bool.not_eq_true',
      Bool.and_eq_false_iff, decide_eq_false_iff_not] at h
    obtain ⟨hspec, hgroup⟩ := h
    cases hp : l.parent with
    | none => exact .inl rfl
    | some p =>
      rw [hp] at hgroup
      exact .inr ⟨hspec, p, rfl, hgroup.resolve_left (not_not_intro hspec), rfl⟩
  · exact .inl rfl

/-- Only types are in groups, and only they start anywhere else. -/
theorem startOf_of_ne (h : l.node.type ≠ "type_spec") :
    inGroup l = false ∧ startOf l = l.node.start := by
  simp [inGroup, startOf, h]

/-- A node does not start behind its own place. -/
private theorem startOf_le (h : ∀ p ∈ l.parent, p.start ≤ l.node.start) :
    startOf l ≤ l.node.start := by
  rcases startOf_eq_or l with heq | ⟨-, p, hp, -, heq⟩
  · exact Nat.le_of_eq heq
  · rw [heq]
    exact h p hp

/-- What is known of the place of a node inside of another one. -/
private structure Inside (n : Node) (parent : Option Node) (l : Located) : Prop where
  start_le : n.start ≤ l.node.start
  stop_le : l.node.stop ≤ n.stop
  startOf_le : startOf l ≤ l.node.start
  /-- Only the node itself may start in front of it. -/
  le_startOf : l = ⟨n, parent⟩ ∨ n.start ≤ startOf l

/-- Every node below a node is inside of it. -/
private theorem inside_of_mem (hparent : ∀ p ∈ parent, p.start ≤ n.start)
    (hregular : ∀ l ∈ n.family parent, Regular l) (hl : l ∈ n.family parent) :
    Inside n parent l := by
  -- The induction is on the tree; the parent of a node may only lie in front of it.
  induction n using Node.induct generalizing parent with
  | step n ih =>
    rw [Node.family_eq, families_eq_flatMap] at hl
    rcases List.mem_cons.1 hl with rfl | hl
    · exact ⟨Nat.le_refl _, Nat.le_refl _, startOf_le hparent, .inl rfl⟩
    · obtain ⟨c, hc, hl⟩ := List.mem_flatMap.1 hl
      obtain ⟨hstart, hstop⟩ := (hregular _ (Syntax.Node.self_mem_family parent n)).laid.mem hc
      have hparent' : ∀ p ∈ some n, p.start ≤ c.start := by
        rintro p ⟨⟩
        exact hstart
      have h := ih c hc hparent' (fun l hl => hregular l (mem_family_of_mem_children hc hl)) hl
      refine ⟨Nat.le_trans hstart h.start_le, Nat.le_trans h.stop_le hstop, h.startOf_le, .inr ?_⟩
      -- A node below starts behind the child, unless it stands for the child.
      rcases h.le_startOf with rfl | hle
      · rcases startOf_eq_or ⟨c, some n⟩ with heq | ⟨-, p, hp, -, heq⟩
        · rw [heq]
          exact hstart
        · cases hp
          exact Nat.le_of_eq heq.symm
      · exact Nat.le_trans hstart hle

/-- The nodes below a child are inside of the child. -/
private theorem inside_of_mem_children (hregular : ∀ l ∈ n.family parent, Regular l)
    (hc : c ∈ n.children) (hl : l ∈ c.family (some n)) : Inside c (some n) l := by
  refine inside_of_mem ?_ (fun l hl => hregular l (mem_family_of_mem_children hc hl)) hl
  rintro p ⟨⟩
  exact ((hregular _ (Syntax.Node.self_mem_family parent n)).laid.mem hc).1

/-- Below a node that is not a type by itself, nothing starts in front of the node that it is in. -/
private theorem Inside.le_startOf_of_not (h : Inside c (some n) l) (hregular : Regular l)
    (hn : ¬ (n.type = "type_declaration" ∧ grouped n = false)) : c.start ≤ startOf l := by
  rcases h.le_startOf with rfl | hle
  · rcases startOf_eq_or ⟨c, some n⟩ with heq | ⟨hspec, p, hp, hungrouped, -⟩
    · exact Nat.le_of_eq heq.symm
    · obtain ⟨p', hp', htype⟩ := (hregular.spec hspec).parent
      cases hp
      cases hp'
      exact absurd ⟨htype, hungrouped⟩ hn
  · exact hle

/-! ## Declarations -/

/-- What a declaration is of. -/
theorem type_of_declares (h : declares n = true) :
    (n.type = "function_declaration" ∨ n.type = "method_declaration") ∧ parts ["body"] n ≠ [] ∨
      n.type = "type_spec" := by
  simp only [declares, Bool.or_eq_true, Bool.and_eq_true, decide_eq_true_eq] at h
  rcases h with ⟨htype, hbody⟩ | ⟨htype, -⟩
  · refine .inl ⟨htype, fun hnone => ?_⟩
    rw [hnone] at hbody
    cases hbody
  · exact .inr htype

/-- A node that declares something has its name in front of its body. -/
private theorem headed_of_declares (hregular : Regular l) (h : declares l.node = true) :
    Headed l.node := by
  rcases type_of_declares h with ⟨htype | htype, -⟩ | htype
  · exact (hregular.function htype).headed
  · exact (hregular.method htype).headed
  · exact (hregular.spec htype).headed

/-- Below a declaration nothing starts in front of the node that it is in. -/
private theorem not_type_declaration_of_declares (h : declares n = true) :
    ¬ (n.type = "type_declaration" ∧ grouped n = false) := by
  rintro ⟨hn, -⟩
  rcases type_of_declares h with ⟨htype | htype, -⟩ | htype <;> rw [hn] at htype <;>
    exact absurd htype (by decide)

/-- A word declares nothing. -/
theorem declares_of_mem_leaf (hn : n.children = []) (hl : l ∈ n.family parent) :
    declares l.node = false := by
  rw [Node.family_eq, hn] at hl
  rw [List.mem_singleton.1 hl]
  simp [declares, parts, hn]

/-- The nodes directly below that have nodes below. -/
def branches (n : Node) : List Node := n.children.filter fun c => !c.children.isEmpty

/-- Words may be left out when declarations are looked for. -/
theorem filter_families (n : Node) :
    (families (some n) n.children).filter (fun l => declares l.node) =
      (families (some n) (branches n)).filter fun l => declares l.node := by
  unfold branches
  induction n.children with
  | nil => rfl
  | cons c ns ih =>
    rw [families, List.filter_append, ih]
    by_cases hc : c.children = []
    · have hnone : (c.family (some n)).filter (fun l => declares l.node) = [] :=
        List.filter_eq_nil_iff.2 fun l hl => by rw [declares_of_mem_leaf hc hl]; decide
      rw [hnone, List.filter_cons_of_neg (by simp [hc]), List.nil_append]
    · rw [List.filter_cons_of_pos (by simp [hc]), families, List.filter_append]

/-- A declaration starts in front of those inside, and ends behind them. -/
private theorem before_of_mem_below (hparent : ∀ p ∈ parent, p.start ≤ n.start)
    (hregular : ∀ l ∈ n.family parent, Regular l) (hn : declares n = true)
    (hl : l ∈ families (some n) n.children) (hdeclares : declares l.node = true) :
    Before ⟨n, parent⟩ l := by
  have hself := hregular _ (Syntax.Node.self_mem_family parent n)
  obtain ⟨word, hword, hleaf, hlt⟩ := headed_of_declares hself hn
  obtain ⟨rest, hchildren⟩ : ∃ rest, n.children = word :: rest := List.head?_eq_some_iff.1 hword
  rw [families_eq_flatMap] at hl
  obtain ⟨c, hc, hl⟩ := List.mem_flatMap.1 hl
  have hinside := inside_of_mem_children hregular hc hl
  have hmem : l ∈ n.family parent := mem_family_of_mem_children hc hl
  have hlaid := hself.laid
  have hstop := (hlaid.mem hc).2
  rw [hchildren] at hc hlaid
  -- The word that the declaration starts with declares nothing, and everything else is behind it.
  rcases List.mem_cons.1 hc with rfl | hc
  · rw [declares_of_mem_leaf hleaf hl] at hdeclares
    cases hdeclares
  · have hword := (hlaid.2.2.mem hc).1
    have hrest := hinside.le_startOf_of_not (hregular l hmem) (not_type_declaration_of_declares hn)
    have hstart := startOf_le (l := ⟨n, parent⟩) hparent
    have hfirst := hlaid.1
    dsimp only at hstart hfirst
    exact ⟨by omega, .inr (Nat.le_trans hinside.stop_le hstop)⟩

/-- The word at the start of a declaration has letters. -/
private theorem start_lt_stop (hregular : Regular l) (h : declares l.node = true) :
    l.node.start < l.node.stop := by
  obtain ⟨first, hfirst, -, hlt⟩ := headed_of_declares hregular h
  obtain ⟨hstart, hstop⟩ := hregular.laid.mem (List.mem_of_mem_head? hfirst)
  omega

/-- Of the nodes below a type that stands for itself, one at most has nodes below. -/
private theorem pairwise_leaf (h : IsGroup n) (hungrouped : grouped n = false) :
    n.children.Pairwise fun c d => c.children = [] ∨ d.children = [] := by
  have hnone : (n.children.filter fun c => !c.children.isEmpty).Pairwise fun _ _ => False := by
    have hlength := h.single hungrouped
    generalize n.children.filter (fun c => !c.children.isEmpty) = ns at hlength
    cases ns with
    | nil => exact .nil
    | cons c ns =>
      obtain rfl : ns = [] := List.length_eq_zero_iff.1 (by simpa using hlength)
      exact List.pairwise_singleton _ c
  refine (List.pairwise_filter.1 hnone).imp fun {c d} h => ?_
  simp only [Bool.not_eq_true', List.isEmpty_eq_false_iff] at h
  exact Decidable.or_iff_not_imp_left.2 fun hc => Decidable.byContradiction fun hd => h hc hd

/-- A declaration below one node ends in front of those below the nodes behind. -/
private theorem before_of_mem_later {d : Node} (hregular : ∀ l ∈ n.family parent, Regular l)
    (hc : c ∈ n.children) (hd : d ∈ n.children) (hle : c.stop ≤ d.start)
    (hn : ¬ (n.type = "type_declaration" ∧ grouped n = false)) (hl : l ∈ c.family (some n))
    (hl' : l' ∈ d.family (some n)) (hdeclares : declares l.node = true) : Before l l' := by
  have hinside := inside_of_mem_children hregular hc hl
  have hbehind := (inside_of_mem_children hregular hd hl').le_startOf_of_not
    (hregular l' (mem_family_of_mem_children hd hl')) hn
  have hlt := start_lt_stop (hregular l (mem_family_of_mem_children hc hl)) hdeclares
  have hstart := hinside.startOf_le
  have hstop := hinside.stop_le
  exact ⟨by omega, .inl (by omega)⟩

/-- The declarations below a node come one behind the other. -/
private theorem pairwise_family (hparent : ∀ p ∈ parent, p.start ≤ n.start)
    (hregular : ∀ l ∈ n.family parent, Regular l) :
    (n.family parent).Pairwise fun l l' =>
      declares l.node = true → declares l'.node = true → Before l l' := by
  induction n using Node.induct generalizing parent with
  | step n ih =>
    have hself := hregular _ (Syntax.Node.self_mem_family parent n)
    rw [Node.family_eq, families_eq_flatMap]
    -- The node itself, the nodes below each child, and nodes below different children.
    refine .cons (fun l hl hn hdeclares => ?_) (List.pairwise_flatMap.2 ⟨fun c hc => ?_, ?_⟩)
    · rw [← families_eq_flatMap] at hl
      exact before_of_mem_below hparent hregular hn hl hdeclares
    · refine ih c hc ?_ fun l hl => hregular l (mem_family_of_mem_children hc hl)
      rintro p ⟨⟩
      exact (hself.laid.mem hc).1
    · by_cases hn : n.type = "type_declaration" ∧ grouped n = false
      · -- Two nodes below a type that stands for itself do not both declare something.
        refine (pairwise_leaf (hself.group hn.1) hn.2).imp fun hleaf l hl l' hl' => ?_
        intro hdeclares hdeclares'
        rcases hleaf with hleaf | hleaf
        · rw [declares_of_mem_leaf hleaf hl] at hdeclares
          cases hdeclares
        · rw [declares_of_mem_leaf hleaf hl'] at hdeclares'
          cases hdeclares'
      -- Children lie behind each other, and so does what is below them.
      · refine (List.Pairwise.and_mem.1 hself.laid.pairwise).imp ?_
        rintro c d ⟨hc, hd, hle⟩ l hl l' hl' hdeclares -
        exact before_of_mem_later hregular hc hd hle hn hl hl' hdeclares

/-- The declarations of a tree come one behind the other. -/
theorem pairwise_before {tree : Syntax.Tree} (h : ∀ l ∈ tree.located, Regular l) :
    (tree.located.filter fun l => declares l.node).Pairwise Before :=
  List.pairwise_filter.2 (pairwise_family (fun _ hp => nomatch hp) h)

/-- A declaration does not start behind its node. -/
theorem startOf_le_start {tree : Syntax.Tree} (h : ∀ l ∈ tree.located, Regular l)
    (hl : l ∈ tree.located) : startOf l ≤ l.node.start :=
  have hinside : Inside tree.root none l := inside_of_mem (fun _ hp => nomatch hp) h hl
  hinside.startOf_le

end Transclude.Go
