import Transclude.Proofs.Go.Listing
import Transclude.Proofs.Syntax.Move

/-!
# Declarations in other places

A declaration that is read in another place has the same parts there: a moved node declares
something if the node does (`declares_move`), the braces of its entry are the moved braces
(`Declares.moved`), and a method that goes by its receiver does so there too (`not_lost_of_move`).
-/

namespace Transclude.Go

open Syntax (Node Located)

variable {lib : Library} {text text' : String} {place : Node → Nat × Nat} {n b : Node}
  {l l' : Located} {d d' : Declaration}

/-! ## Parts -/

/-- Parts move with their node. -/
@[simp] theorem parts_move (fields : List String) (n : Node) :
    parts fields (n.move place) = (parts fields n).map (Node.move place) := by
  simp [parts, List.filter_map, Function.comp_def]

/-- Children of a type move with their node. -/
@[simp] theorem ofType_move (type : String) (n : Node) :
    ofType type (n.move place) = (ofType type n).map (Node.move place) := by
  simp [ofType, List.filter_map, Function.comp_def]

/-- What a node declares does not depend on where it stands. -/
@[simp] theorem declares_move (n : Node) : declares (n.move place) = declares n := by
  simp [declares, List.any_map, Function.comp_def]

/-- Whether a declaration is a group does not depend on where it stands. -/
@[simp] theorem grouped_move (n : Node) : grouped (n.move place) = grouped n := by
  simp [grouped, List.any_map, Function.comp_def]

/-- Whether a type is in a group does not depend on where it stands. -/
@[simp] theorem inGroup_move (l : Located) : inGroup (l.move place) = inGroup l := by
  obtain ⟨n, _ | p⟩ := l <;> simp [inGroup, Syntax.Located.move]

/-- A declaration starts where its node is moved to, or the node above. -/
theorem startOf_move (place : Node → Nat × Nat) (l : Located) :
    startOf l = l.node.start ∧ startOf (l.move place) = (place l.node).1 ∨
      l.node.type = "type_spec" ∧ ∃ p, l.parent = some p ∧ startOf l = p.start ∧
        startOf (l.move place) = (place p).1 := by
  simp only [startOf, inGroup_move, Syntax.Located.node_move, Syntax.Located.parent_move,
    Node.type_move]
  -- A type that stands for itself starts where its declaration does.
  by_cases h : (l.node.type = "type_spec" && !inGroup l) = true
  · rw [if_pos h, if_pos h]
    cases hparent : l.parent with
    | none => exact .inl ⟨rfl, Node.start_move l.node⟩
    | some p =>
      simp only [Bool.and_eq_true, decide_eq_true_eq] at h
      exact .inr ⟨h.1, p, rfl, rfl, Node.start_move p⟩
  · rw [if_neg h, if_neg h]
    exact .inl ⟨rfl, Node.start_move l.node⟩

/-- The one part with a field moves with its node. -/
private theorem parts_move_singleton {field : String} {c : Node} (h : parts [field] n = [c]) :
    parts [field] (n.move place) = [c.move place] := by
  rw [parts_move, h, List.map_singleton]

/-! ## Entries -/

/-- The braces of a moved declaration are directly below the moved node. -/
theorem Holds.move (h : Holds n b) : Holds (n.move place) (b.move place) := by
  cases h with
  | block htype hparts hblock =>
    exact .block (by rwa [Node.type_move]) (parts_move_singleton hparts) (by rwa [Node.type_move])
  | struct htype hparts hstruct hlist =>
    exact .struct (by rwa [Node.type_move]) (parts_move_singleton hparts)
      (by rwa [Node.type_move]) (by rw [ofType_move, hlist, List.map_singleton])
  | interface htype hparts hinterface =>
    exact .interface (by rwa [Node.type_move]) (parts_move_singleton hparts)
      (by rwa [Node.type_move])

/-- The entry of a moved node is of the same kind, and its braces are the moved ones. -/
theorem Declares.moved (h : Declares lib text l d) (h' : Declares lib text' l' d')
    (hl : l'.node = l.node.move place) :
    d'.kind = d.kind ∧ d'.opening = d.opening.move place ∧ d'.closing = d.closing.move place := by
  obtain ⟨b, hb, hopening, hclosing⟩ := h.braces
  obtain ⟨b', hb', hopening', hclosing'⟩ := h'.braces
  rw [hl] at hb'
  obtain rfl := hb'.unique hb.move
  rw [ofType_move, hopening, List.map_singleton] at hopening'
  rw [ofType_move, hclosing, List.map_singleton] at hclosing'
  refine ⟨?_, (List.singleton_inj.1 hopening').symm, (List.singleton_inj.1 hclosing').symm⟩
  rw [h.kind, h'.kind, hl, Node.type_move]

/-! ## Receivers -/

/-- A receiver that has a name in one place has one in another place. -/
private theorem exists_receiverName_move {receiver : Node} {parent : Option Node} {s : String}
    (h : Conforms lib text')
    (hmem : ⟨receiver.move place, parent⟩ ∈ (lib.parse (Text.encode text')).located)
    (hname : receiverName lib (Text.encode text) receiver = .ok s) :
    ∃ s', receiverName lib (Text.encode text') (receiver.move place) = .ok s' := by
  unfold receiverName at hname
  cases hfound : receiver.findBelow "type_identifier" lib.callDepth with
  | error e =>
    rw [hfound] at hname
    cases hname
  | ok found =>
    -- The search goes through the moved nodes in the same way.
    have hmoved : (receiver.move place).findBelow "type_identifier" lib.callDepth =
        .ok (found.map (Node.move place)) := by
      rw [Syntax.findBelow_move, hfound]
      rfl
    exact exists_receiverName_of_findBelow h hmem hmoved

/-- A method that has an entry in one place has one in another place. -/
theorem not_lost_of_move (h' : Conforms lib text')
    (hmem : l' ∈ (lib.parse (Text.encode text')).located) (hl : l'.node = l.node.move place)
    (hd : Declares lib text l d) : ¬ Lost lib text' l' := by
  rintro ⟨htype, -, receiver', e, hreceiver', he⟩
  -- The receiver of the moved method is the moved receiver.
  have hchild : receiver' ∈ l'.node.children :=
    (List.mem_filter.1 (hreceiver' ▸ List.mem_singleton_self receiver')).1
  have hreceiverMem := Syntax.mem_located_of_mem_children hmem hchild
  rw [hl, Node.type_move] at htype
  rw [hl, parts_move] at hreceiver'
  obtain ⟨receiver, hreceiver, rfl⟩ := List.map_eq_singleton_iff.1 hreceiver'
  have hname := hd.name
  generalize d.name = called at hname
  -- Only methods have receivers, and this one has a name in the one text.
  cases hname with
  | plain hne => exact hne htype
  | method _ hreceiver₂ hbase =>
    cases hreceiver₂.symm.trans hreceiver
    obtain ⟨s, hs⟩ := exists_receiverName_move h' hreceiverMem hbase
    rw [hs] at he
    cases he

end Transclude.Go
