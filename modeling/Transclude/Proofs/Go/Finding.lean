import Mathlib.Data.List.Basic
import Transclude.Proofs.Go.Nesting
import Transclude.Proofs.Syntax.Query

/-!
# What is found at a node

The query for declarations finds nothing at a node that declares nothing, and one thing at a node
that does: the parts of the declaration, and the node whose braces its body is in
(`matchesAt_cases`).
-/

namespace Transclude.Go

open Syntax (Node Located Pattern Match Captures Fit waysInTurn waysInTurn_of_fit waysInTurn_eq_nil)

variable {l : Located} {n : Node} {type field name : String} {fields : List String}
  {capture : Option String} {ps patterns : List Pattern}

/-! ## Parts -/

/-- The nodes directly below a node, in their places. -/
def below (n : Node) : List Located := n.children.map fun c => ⟨c, some n⟩

/-- Parts are found among more parts. -/
theorem parts_eq_filter (fields : List String) {fewer : List String}
    (h : fewer ⊆ fields) (n : Node) :
    parts fewer n = (parts fields n).filter fun c => c.field.any fewer.contains := by
  unfold parts
  rw [List.filter_filter]
  refine List.filter_congr fun c _ => ?_
  cases hfield : c.field with
  | none => rfl
  | some field =>
    simp only [Option.any_some, List.contains_eq_mem]
    by_cases hmem : field ∈ fewer
    · simp [hmem, h hmem]
    · simp [hmem]

private theorem any_contains_singleton (field : String) (o : Option String) :
    o.any [field].contains = decide (o = some field) := by
  cases o with
  | none => rfl
  | some other => simp [eq_comm]

/-- The parts with one field are the children with it. -/
theorem parts_eq_children (field : String) (n : Node) :
    parts [field] n = n.children.filter fun c => c.field = some field :=
  List.filter_congr fun c _ => any_contains_singleton field c.field

/-- Of the parts that a node has, those that play one part. -/
theorem parts_singleton {ns : List Node} (hparts : parts fields n = ns) (hfield : field ∈ fields) :
    parts [field] n = ns.filter fun c => c.field = some field := by
  have hfewer : [field] ⊆ fields := fun f hf => List.mem_singleton.1 hf ▸ hfield
  rw [parts_eq_filter fields hfewer, hparts]
  exact List.filter_congr fun c _ => any_contains_singleton field c.field

/-- A node that plays a part has its field. -/
private theorem field_of_label (h : label n = playing field type) : n.field = some field :=
  congrArg Prod.fst h

/-- The nodes below that play certain parts, in their places. -/
private theorem filter_below (fields : List String) (n : Node) :
    (below n).filter (fun l => l.node.field.any fields.contains) =
      (parts fields n).map fun c => ⟨c, some n⟩ := by
  rw [below, List.filter_map]
  rfl

/-! ## Patterns for parts -/

/-- A pattern fits a node that plays its part in the ways of the patterns inside of it. -/
private theorem ways_of_label (h : label l.node = playing field type) :
    (Pattern.mk type (some field) capture ps).ways l =
      (waysInTurn ps (below l.node)).map ((capture.map fun name => (name, l)).toList ++ ·) := by
  obtain ⟨hfield, hnamed, htype⟩ : l.node.field = some field ∧ l.node.named = true ∧
    l.node.type = type := by simpa [label, playing] using h
  rw [Pattern.ways, if_pos (by simp [hfield, hnamed, htype])]
  rfl

/-- A pattern fits no node that plays another part. -/
private theorem ways_eq_nil_of_label (h : label l.node ≠ playing field type) :
    (Pattern.mk type (some field) capture ps).ways l = [] := by
  rw [Pattern.ways, if_neg]
  intro hfits
  simp only [Option.isNone_some, Bool.false_or, Bool.and_eq_true, decide_eq_true_eq] at hfits
  exact h (by rw [label, playing, hfits.1.1, hfits.1.2, hfits.2])

/-- A pattern for a part, which captures it under the name of the part. -/
def partPattern (part : String × String) : Pattern := .mk part.2 (some part.1) (some part.1) []

/-- Parts with their own names fit their patterns in turn. -/
private theorem fit_parts {wanted : List (String × String)} {ns : List Node}
    (hwanted : (wanted.map Prod.fst).Nodup)
    (h : ns.map label = wanted.map fun part => playing part.1 part.2) :
    Fit (wanted.map partPattern) (ns.map fun c => ⟨c, some n⟩)
      ((wanted.map Prod.fst).zip (ns.map fun c => ⟨c, some n⟩)) := by
  -- The patterns and the nodes go along with each other.
  induction wanted generalizing ns with
  | nil =>
    obtain rfl := List.map_eq_nil_iff.1 h
    exact .nil
  | cons part wanted ih =>
    obtain ⟨c, ns, rfl, hlabel, hrest⟩ := List.map_eq_cons_iff.1 h
    obtain ⟨hpart, hwanted⟩ := List.nodup_cons.1 hwanted
    have hway : (partPattern part).ways ⟨c, some n⟩ = [[(part.1, ⟨c, some n⟩)]] := by
      rw [partPattern, ways_of_label hlabel]
      rfl
    -- Behind the node of a part no other node plays that part.
    refine Fit.cons hway (fun l hl => ?_) (ih hwanted hrest)
    obtain ⟨c', hc', rfl⟩ := List.mem_map.1 hl
    refine ways_eq_nil_of_label fun hlabel' => hpart ?_
    have hmem : label c' ∈ ns.map label := List.mem_map_of_mem hc'
    rw [hrest, hlabel'] at hmem
    -- The part would be wanted twice.
    obtain ⟨other, hother, heq⟩ := List.mem_map.1 hmem
    have hname : other.1 = part.1 := Option.some.inj (congrArg Prod.fst heq)
    exact hname ▸ List.mem_map_of_mem hother

/-- The patterns for the parts of a node fit in one way, part by part. -/
private theorem waysInTurn_parts (fields : List String) (wanted : List (String × String))
    (hfields : ∀ part ∈ wanted, part.1 ∈ fields) (hwanted : (wanted.map Prod.fst).Nodup)
    (h : (parts fields n).map label = wanted.map fun part => playing part.1 part.2) :
    waysInTurn (wanted.map partPattern) (below n) =
      [(wanted.map Prod.fst).zip ((parts fields n).map fun c => ⟨c, some n⟩)] := by
  refine waysInTurn_of_fit (fun l => l.node.field.any fields.contains) ?_ ?_
  · intro p hp l hl
    obtain ⟨part, hpart, rfl⟩ := List.mem_map.1 hp
    refine ways_eq_nil_of_label fun hlabel => ?_
    have hfield : l.node.field = some part.1 := congrArg Prod.fst hlabel
    rw [hfield, Option.any_some, List.contains_eq_mem, decide_eq_false_iff_not] at hl
    exact hl (hfields part hpart)
  · rw [filter_below]
    exact fit_parts hwanted h

/-- A part that a node does not have is not found. -/
private theorem waysInTurn_eq_nil_of_not_mem (fields : List String) (field type : String)
    (hpattern : Pattern.mk type (some field) capture ps ∈ patterns) (hfield : field ∈ fields)
    (h : playing field type ∉ (parts fields n).map label) :
    waysInTurn patterns (below n) = [] := by
  refine waysInTurn_eq_nil hpattern fun l hl => ways_eq_nil_of_label fun hlabel => h ?_
  obtain ⟨c, hc, rfl⟩ := List.mem_map.1 hl
  refine hlabel ▸ List.mem_map_of_mem (List.mem_filter.2 ⟨hc, ?_⟩)
  have hc : c.field = some field := congrArg Prod.fst hlabel
  rw [hc]
  simpa using hfield

/-! ## Patterns for declarations -/

/-- The pattern of a declaration fits a node of its type as the patterns inside of it do. -/
private theorem ways_declarationPattern (htype : l.node.type = type)
    (hnamed : l.node.named = true) :
    (declarationPattern type ps).ways l =
      (waysInTurn ps (below l.node)).map (("declaration", l) :: ·) := by
  rw [declarationPattern, Pattern.ways, if_pos (by simp [hnamed, htype])]
  rfl

/-- The pattern of a declaration fits no node of another type. -/
private theorem ways_declarationPattern_of_ne (h : l.node.type ≠ type) :
    (declarationPattern type ps).ways l = [] := by
  rw [declarationPattern, Pattern.ways, if_neg]
  simp [h]

/-- What is captured at a node that declares something. -/
inductive Captured (l : Located) : Match → Prop where
  | function {name body : Node} (htype : l.node.type = "function_declaration")
    (hname : parts ["name"] l.node = [name]) (hbody : parts ["body"] l.node = [body])
    (hblock : body.type = "block") :
    Captured l ⟨0, [("declaration", l), ("name", ⟨name, some l.node⟩),
      ("body", ⟨body, some l.node⟩)]⟩
  | method {receiver name body : Node} (htype : l.node.type = "method_declaration")
    (hreceiver : parts ["receiver"] l.node = [receiver]) (hname : parts ["name"] l.node = [name])
    (hbody : parts ["body"] l.node = [body]) (hblock : body.type = "block") :
    Captured l ⟨1, [("declaration", l), ("receiver", ⟨receiver, some l.node⟩),
      ("name", ⟨name, some l.node⟩), ("body", ⟨body, some l.node⟩)]⟩
  | struct {name what list : Node} (htype : l.node.type = "type_spec")
    (hname : parts ["name"] l.node = [name]) (hwhat : parts ["type"] l.node = [what])
    (hstruct : what.type = "struct_type") (hlist : ofType "field_declaration_list" what = [list]) :
    Captured l ⟨2, [("declaration", l), ("name", ⟨name, some l.node⟩), ("body", ⟨list, some what⟩)]⟩
  | interface {name what : Node} (htype : l.node.type = "type_spec")
    (hname : parts ["name"] l.node = [name]) (hwhat : parts ["type"] l.node = [what])
    (hinterface : what.type = "interface_type") :
    Captured l ⟨3, [("declaration", l), ("name", ⟨name, some l.node⟩),
      ("body", ⟨what, some l.node⟩)]⟩

/-- What the query for declarations finds at a node. -/
def matchesAt (l : Located) : List Match :=
  declarationQuery.zipIdx.flatMap fun (pattern, i) =>
    (pattern.ways l).map fun captures => ⟨i, captures⟩

theorem matchesIn_eq (tree : Syntax.Tree) :
    declarationQuery.matchesIn tree = tree.located.flatMap matchesAt := rfl

/-- What is found at a node is found by one of the patterns. -/
private theorem matchesAt_append (l : Located) : matchesAt l =
    ((declarationPattern "function_declaration"
      [namePattern "identifier", blockPattern]).ways l).map (⟨0, ·⟩) ++
    (((declarationPattern "method_declaration"
      [.mk "parameter_list" (some "receiver") (some "receiver") [], namePattern "field_identifier",
        blockPattern]).ways l).map (⟨1, ·⟩) ++
    (((declarationPattern "type_spec"
      [namePattern "type_identifier",
        .mk "struct_type" (some "type") none
          [.mk "field_declaration_list" none (some "body") []]]).ways l).map (⟨2, ·⟩) ++
    (((declarationPattern "type_spec"
      [namePattern "type_identifier",
        .mk "interface_type" (some "type") (some "body") []]).ways l).map (⟨3, ·⟩) ++ []))) := rfl

/-- A function without a block is not found, and one with a block is found with its parts. -/
private theorem waysInTurn_function (wanted : List (String × String))
    (h : IsFunction (wanted.map fun part => playing part.1 part.2) n)
    (hwanted : ((wanted ++ [("body", "block")]).map Prod.fst).Sublist functionFields) :
    (parts ["body"] n = [] ∧
        waysInTurn (wanted.map partPattern ++ [blockPattern]) (below n) = []) ∨
      ∃ heads body, parts functionFields n = heads ++ [body] ∧
        heads.map label = wanted.map (fun part => playing part.1 part.2) ∧
        label body = playing "body" "block" ∧ parts ["body"] n = [body] ∧
        waysInTurn (wanted.map partPattern ++ [blockPattern]) (below n) =
          [(wanted.map Prod.fst).zip (heads.map fun c => ⟨c, some n⟩) ++
            [("body", ⟨body, some n⟩)]] := by
  -- The parts in front of a block are not blocks.
  have hnodup := List.Nodup.sublist hwanted (by decide)
  have hno : ∀ part ∈ wanted, part.1 ≠ "body" := by
    intro part hpart hbody
    rw [List.map_append] at hnodup
    exact (List.nodup_append.1 hnodup).2.2 _ (List.mem_map_of_mem hpart) _ List.mem_cons_self hbody
  have hheads : ∀ heads : List Node,
      heads.map label = wanted.map (fun part => playing part.1 part.2) →
        heads.filter (fun c => c.field.any ["body"].contains) = [] := by
    intro heads hheads
    refine List.filter_eq_nil_iff.2 fun c hc hbody => ?_
    have hmem : label c ∈ heads.map label := List.mem_map_of_mem hc
    rw [hheads] at hmem
    obtain ⟨part, hpart, hlabel⟩ := List.mem_map.1 hmem
    have hfield : c.field = some part.1 := (congrArg Prod.fst hlabel).symm
    rw [hfield, Option.any_some, List.contains_eq_mem, decide_eq_true_eq] at hbody
    exact hno part hpart (List.mem_singleton.1 hbody)
  have hbodies : parts ["body"] n = (parts functionFields n).filter fun c =>
    c.field.any ["body"].contains := parts_eq_filter functionFields (by decide) n
  -- There is a block behind the other parts, or there is none.
  rcases List.mem_cons.1 h.parts with hparts | hparts
  · refine .inl ⟨by rw [hbodies, hheads _ hparts], ?_⟩
    refine waysInTurn_eq_nil_of_not_mem functionFields "body" "block"
      (List.mem_append_right _ List.mem_cons_self) (by decide) ?_
    rw [hparts]
    intro hmem
    obtain ⟨part, hpart, hlabel⟩ := List.mem_map.1 hmem
    exact hno part hpart (Option.some.inj (congrArg Prod.fst hlabel))
  · have hparts := List.mem_singleton.1 hparts
    -- The block is the last of the parts.
    obtain ⟨heads, bodies, hnodes, hlabels, hbody⟩ := List.map_eq_append_iff.1 hparts
    obtain ⟨body, rfl, hlabel⟩ := List.map_eq_singleton_iff.1 hbody
    have hlength : heads.length = wanted.length := by
      simpa using congrArg List.length hlabels
    have hfield : body.field = some "body" := congrArg Prod.fst hlabel
    refine .inr ⟨heads, body, hnodes, hlabels, hlabel, ?_, ?_⟩
    · rw [hbodies, hnodes, List.filter_append, hheads _ hlabels, List.nil_append,
        List.filter_singleton, hfield]
      rfl
    -- All patterns fit, one part each, and the last one fits the block.
    · have hways := waysInTurn_parts functionFields (wanted ++ [("body", "block")])
        (fun part hpart => hwanted.subset (List.mem_map_of_mem hpart)) hnodup
        (by rw [hparts, List.map_append]; rfl)
      rw [List.map_append, List.map_append, hnodes, List.map_append,
        List.zip_append (by rw [List.length_map, List.length_map, hlength])] at hways
      exact hways

/-- A function is found once if it has a block, and else not. -/
private theorem matchesAt_function (htype : l.node.type = "function_declaration")
    (h : IsFunction [playing "name" "identifier"] l.node) :
    (declares l.node = false ∧ matchesAt l = []) ∨
      declares l.node = true ∧ ∃ m, matchesAt l = [m] ∧ Captured l m := by
  -- The other patterns are for other types.
  rw [matchesAt_append, ways_declarationPattern htype h.named,
    ways_declarationPattern_of_ne (by rw [htype]; decide : l.node.type ≠ "method_declaration"),
    ways_declarationPattern_of_ne (by rw [htype]; decide : l.node.type ≠ "type_spec"),
    ways_declarationPattern_of_ne (by rw [htype]; decide : l.node.type ≠ "type_spec")]
  rcases waysInTurn_function [("name", "identifier")] h (by decide) with
    ⟨hbody, hways⟩ | ⟨heads, body, hparts, hheads, hblock, hbody, hways⟩
  · refine .inl ⟨by simp [declares, htype, hbody], ?_⟩
    have hways : waysInTurn [namePattern "identifier", blockPattern] (below l.node) = [] := hways
    rw [hways]
    rfl
  · obtain ⟨name, rfl, hlabel⟩ := List.map_eq_singleton_iff.1 hheads
    -- The parts are a name and a block.
    have hblockType : body.type = "block" := congrArg (fun part => part.2.2) hblock
    have hnames : parts ["name"] l.node = [name] := by
      simp [parts_singleton hparts, field_of_label hlabel, field_of_label hblock]
    refine .inr ⟨by simp [declares, htype, hbody, hblockType], _, ?_,
      .function htype hnames hbody hblockType⟩
    have hways : waysInTurn [namePattern "identifier", blockPattern] (below l.node) =
      [[("name", ⟨name, some l.node⟩), ("body", ⟨body, some l.node⟩)]] := hways
    rw [hways]
    rfl

/-- A method is found once if it has a block, and else not. -/
theorem matchesAt_method (htype : l.node.type = "method_declaration")
    (h : IsFunction [playing "receiver" "parameter_list", playing "name" "field_identifier"]
      l.node) :
    (declares l.node = false ∧ matchesAt l = []) ∨
      declares l.node = true ∧ ∃ m, matchesAt l = [m] ∧ Captured l m := by
  rw [matchesAt_append,
    ways_declarationPattern_of_ne (by rw [htype]; decide : l.node.type ≠ "function_declaration"),
    ways_declarationPattern htype h.named,
    ways_declarationPattern_of_ne (by rw [htype]; decide : l.node.type ≠ "type_spec"),
    ways_declarationPattern_of_ne (by rw [htype]; decide : l.node.type ≠ "type_spec")]
  rcases waysInTurn_function [("receiver", "parameter_list"), ("name", "field_identifier")] h
    (by decide) with ⟨hbody, hways⟩ | ⟨heads, body, hparts, hheads, hblock, hbody, hways⟩
  · refine .inl ⟨by simp [declares, htype, hbody], ?_⟩
    have hways : waysInTurn [.mk "parameter_list" (some "receiver") (some "receiver") [],
      namePattern "field_identifier", blockPattern] (below l.node) = [] := hways
    rw [hways]
    rfl
  -- The parts are a receiver, a name and a block.
  · obtain ⟨receiver, rest, rfl, hreceiver, hrest⟩ := List.map_eq_cons_iff.1 hheads
    obtain ⟨name, rfl, hlabel⟩ := List.map_eq_singleton_iff.1 hrest
    have hblockType : body.type = "block" := congrArg (fun part => part.2.2) hblock
    have hreceivers : parts ["receiver"] l.node = [receiver] := by
      simp [parts_singleton hparts, field_of_label hreceiver, field_of_label hlabel,
        field_of_label hblock]
    have hnames : parts ["name"] l.node = [name] := by
      simp [parts_singleton hparts, field_of_label hreceiver, field_of_label hlabel,
        field_of_label hblock]
    refine .inr ⟨by simp [declares, htype, hbody, hblockType], _, ?_,
      .method htype hreceivers hnames hbody hblockType⟩
    have hways : waysInTurn [.mk "parameter_list" (some "receiver") (some "receiver") [],
      namePattern "field_identifier", blockPattern] (below l.node) =
      [[("receiver", ⟨receiver, some l.node⟩), ("name", ⟨name, some l.node⟩),
        ("body", ⟨body, some l.node⟩)]] := hways
    rw [hways]
    rfl

/-- A type has a name and is of some type. -/
private theorem exists_of_isSpec (h : IsSpec l) : ∃ name what,
    parts specFields l.node = [name, what] ∧ label name = playing "name" "type_identifier" ∧
      label what = playing "type" what.type ∧ parts ["name"] l.node = [name] ∧
      parts ["type"] l.node = [what] := by
  have hparts := h.parts
  unfold areNameAndType at hparts
  split at hparts
  · rename_i name what hnodes
    simp only [Bool.and_eq_true, decide_eq_true_eq] at hparts
    obtain ⟨⟨hname, hfield⟩, hnamed⟩ := hparts
    refine ⟨name, what, hnodes, hname, by rw [label, hfield, hnamed]; rfl, ?_, ?_⟩ <;>
      simp [parts_singleton hnodes, field_of_label hname, hfield]
  · cases hparts

/-- A node of the one type that is below is found. -/
private theorem waysInTurn_ofType {list : Node} (hlist : ofType type n = [list])
    (hnamed : list.named = true) :
    waysInTurn [.mk type none (some name) []] (below n) = [[(name, ⟨list, some n⟩)]] := by
  -- Only nodes of the type can fit the pattern.
  refine waysInTurn_of_fit (fun l => l.node.type = type) ?_ ?_
  · intro p hp l hl
    rw [List.mem_singleton.1 hp, Pattern.ways, if_neg]
    simpa using fun _ => hl
  · have hcertain : (below n).filter (fun l => l.node.type = type) =
        (ofType type n).map fun c => ⟨c, some n⟩ := by
      rw [below, List.filter_map]
      rfl
    have htype : list.type = type := by
      have hmem : list ∈ ofType type n := hlist ▸ List.mem_cons_self
      simpa using (List.mem_filter.1 hmem).2
    rw [hcertain, hlist]
    -- The list is the one node of that type, and it fits in one way.
    have hway : (Pattern.mk type none (some name) []).ways ⟨list, some n⟩ =
        [[(name, ⟨list, some n⟩)]] := by
      rw [Pattern.ways, if_pos (by simp [hnamed, htype])]
      rfl
    exact Fit.cons hway (List.forall_mem_nil _) .nil

/-- A type is found by the pattern for its name and one for what it is. -/
private theorem waysInTurn_spec {name what : Node} {captures : Captures}
    (hparts : parts specFields n = [name, what])
    (hname : label name = playing "name" "type_identifier")
    (hlabel : label what = playing "type" type) (hps : waysInTurn ps (below what) = [captures]) :
    waysInTurn [namePattern "type_identifier", .mk type (some "type") capture ps] (below n) =
      [("name", ⟨name, some n⟩) ::
        ((capture.map fun c => (c, ⟨what, some n⟩)).toList ++ captures)] := by
  have hne : playing "type" type ≠ playing "name" "type_identifier" := fun heq =>
    absurd (congrArg Prod.fst heq) (by simp [playing])
  -- Only the name and the type are looked at.
  refine waysInTurn_of_fit (fun l => l.node.field.any specFields.contains) ?_ ?_
  · intro p hp l hl
    have hfield : ∀ {field type}, field ∈ specFields → label l.node ≠ playing field type := by
      intro field type hmem hlabel
      have hfield : l.node.field = some field := congrArg Prod.fst hlabel
      rw [hfield, Option.any_some, List.contains_eq_mem, decide_eq_false_iff_not] at hl
      exact hl hmem
    rcases List.mem_cons.1 hp with rfl | hp
    · exact ways_eq_nil_of_label (hfield (by decide))
    · rw [List.mem_singleton.1 hp]
      exact ways_eq_nil_of_label (hfield (by decide))
  · rw [filter_below, hparts]
    -- The name fits the first pattern, and nothing else does.
    have hfirst : (namePattern "type_identifier").ways ⟨name, some n⟩ =
        [[("name", ⟨name, some n⟩)]] := ways_of_label hname
    refine Fit.cons hfirst (fun l hl => ?_) ?_
    · rw [List.mem_singleton.1 hl]
      exact ways_eq_nil_of_label fun hname => hne (hlabel.symm.trans hname)
    -- The type fits the second pattern in the way that the patterns inside do.
    · have hway : (Pattern.mk type (some "type") capture ps).ways ⟨what, some n⟩ =
          [(capture.map fun c => (c, ⟨what, some n⟩)).toList ++ captures] := by
        rw [ways_of_label hlabel, hps]
        rfl
      simpa using Fit.cons hway (List.forall_mem_nil _) .nil

/-- A type is found once if it is a struct or an interface, and else not. -/
private theorem matchesAt_spec (htype : l.node.type = "type_spec") (h : IsSpec l)
    (hbelow : ∀ c ∈ l.node.children, Regular ⟨c, some l.node⟩) :
    (declares l.node = false ∧ matchesAt l = []) ∨
      declares l.node = true ∧ ∃ m, matchesAt l = [m] ∧ Captured l m := by
  obtain ⟨name, what, hparts, hname, hlabel, hnames, htypes⟩ := exists_of_isSpec h
  have hlabels : (parts specFields l.node).map label =
      [playing "name" "type_identifier", playing "type" what.type] := by
    rw [hparts, List.map_cons, List.map_singleton, hname, hlabel]
  -- A pattern for another type finds nothing.
  have hother : ∀ {other capture ps}, what.type ≠ other →
      waysInTurn [namePattern "type_identifier", .mk other (some "type") capture ps]
        (below l.node) = [] := by
    intro other capture ps hne
    refine waysInTurn_eq_nil_of_not_mem specFields "type" other
      (List.mem_cons_of_mem _ List.mem_cons_self) (by decide) ?_
    rw [hlabels, List.mem_pair]
    rintro (heq | heq)
    · exact absurd (congrArg Prod.fst heq) (by simp [playing])
    · exact hne (congrArg (fun part => part.2.2) heq).symm
  -- Functions and methods are of other types, so two patterns are left.
  rw [matchesAt_append,
    ways_declarationPattern_of_ne (by rw [htype]; decide : l.node.type ≠ "function_declaration"),
    ways_declarationPattern_of_ne (by rw [htype]; decide : l.node.type ≠ "method_declaration"),
    ways_declarationPattern htype h.named, ways_declarationPattern htype h.named]
  by_cases hstruct : what.type = "struct_type"
  · have hmem : what ∈ l.node.children := by
      have hmem : what ∈ parts ["type"] l.node := htypes ▸ List.mem_cons_self
      exact (List.mem_filter.1 hmem).1
    -- A struct has one list of fields, where its braces are.
    obtain ⟨list, hlist, hnamed⟩ :=
      List.map_eq_singleton_iff.1 ((hbelow what hmem).struct hstruct).1
    refine .inr ⟨by simp [declares, htype, htypes, hstruct], _, ?_,
      .struct htype hnames htypes hstruct hlist⟩
    rw [hstruct] at hlabel
    rw [waysInTurn_spec hparts hname hlabel (waysInTurn_ofType hlist hnamed),
      hother (by rw [hstruct]; decide)]
    rfl
  · by_cases hinterface : what.type = "interface_type"
    -- An interface has its braces itself.
    · refine .inr ⟨by simp [declares, htype, htypes, hinterface], _, ?_,
        .interface htype hnames htypes hinterface⟩
      rw [hinterface] at hlabel
      rw [hother hstruct, waysInTurn_spec hparts hname hlabel (Syntax.waysInTurn_nil _)]
      rfl
    -- Any other type is no declaration.
    · refine .inl ⟨by simp [declares, htype, htypes, hstruct, hinterface], ?_⟩
      rw [hother hstruct, hother hinterface]
      rfl

/-- Nothing is found at a node of any other type. -/
theorem matchesAt_of_not_mem
    (h : l.node.type ∉ ["function_declaration", "method_declaration", "type_spec"]) :
    matchesAt l = [] := by
  simp only [List.mem_cons, List.not_mem_nil, or_false, not_or] at h
  rw [matchesAt_append, ways_declarationPattern_of_ne h.1, ways_declarationPattern_of_ne h.2.1,
    ways_declarationPattern_of_ne h.2.2, ways_declarationPattern_of_ne h.2.2]
  rfl

/-- The query for declarations finds nothing at a node that declares nothing, and one thing at a
    node that declares something. -/
theorem matchesAt_cases (h : Regular l) (hbelow : ∀ c ∈ l.node.children, Regular ⟨c, some l.node⟩) :
    (declares l.node = false ∧ matchesAt l = []) ∨
      declares l.node = true ∧ ∃ m, matchesAt l = [m] ∧ Captured l m := by
  by_cases hfunction : l.node.type = "function_declaration"
  · exact matchesAt_function hfunction (h.function hfunction)
  by_cases hmethod : l.node.type = "method_declaration"
  · exact matchesAt_method hmethod (h.method hmethod)
  by_cases hspec : l.node.type = "type_spec"
  · exact matchesAt_spec hspec (h.spec hspec) hbelow
  · exact .inl ⟨by simp [declares, hfunction, hmethod, hspec],
      matchesAt_of_not_mem (by simp [hfunction, hmethod, hspec])⟩

end Transclude.Go
