import Transclude.Proofs.Go.Declaration
import Transclude.Proofs.Go.Finding

/-!
# What a node declares

The entry for a declaration can be read off its node (`Declares`): its kind, its name, where it
starts and where its braces are.  That is the entry that is made of what the query finds at the
node, unless the receiver of a method is too high (`ofMatch_cases`).
-/

namespace Transclude.Go

open Syntax (Node Located Match mem_located_of_mem_children)

variable {lib : Library} {text : String} {l : Located} {n b : Node} {d d' : Declaration} {m : Match}

/-! ## Entries -/

/-- The braces of a declaration are directly below a node. -/
inductive Holds : Node → Node → Prop where
  | block {n b : Node} (htype : n.type = "function_declaration" ∨ n.type = "method_declaration")
    (hparts : parts ["body"] n = [b]) (hblock : b.type = "block") : Holds n b
  | struct {n type b : Node} (htype : n.type = "type_spec") (hparts : parts ["type"] n = [type])
    (hstruct : type.type = "struct_type") (hlist : ofType "field_declaration_list" type = [b]) :
    Holds n b
  | interface {n type : Node} (htype : n.type = "type_spec") (hparts : parts ["type"] n = [type])
    (hinterface : type.type = "interface_type") : Holds n type

/-- The name of a declaration.  A method goes by its receiver too. -/
inductive Named (lib : Library) (text : String) : Node → String → Prop where
  | plain {n name : Node} {s : String} (htype : n.type ≠ "method_declaration")
    (hname : parts ["name"] n = [name]) (htext : name.text (Text.encode text) = .ok s) :
    Named lib text n s
  | method {n receiver name : Node} {base s : String} (htype : n.type = "method_declaration")
    (hreceiver : parts ["receiver"] n = [receiver])
    (hbase : receiverName lib (Text.encode text) receiver = .ok base)
    (hname : parts ["name"] n = [name]) (htext : name.text (Text.encode text) = .ok s) :
    Named lib text n (base ++ "." ++ s)

/-- The entry is that of the declaration at a node. -/
structure Declares (lib : Library) (text : String) (l : Located) (d : Declaration) : Prop where
  kind : d.kind = if l.node.type = "type_spec" then .type else .function
  name : Named lib text l.node d.name
  start : d.start = startOf l
  lead : d.lead = if inGroup l then "type " else ""
  braces : ∃ b, Holds l.node b ∧ ofType "\x7b" b = [d.opening] ∧ ofType "\x7d" b = [d.closing]

/-! ## Braces -/

/-- A node in braces has one of each. -/
private theorem exists_braces (h : Braced b) : ∃ opening closing, ofType "\x7b" b = [opening] ∧
    ofType "\x7d" b = [closing] ∧ braces? b = some (opening, closing) := by
  obtain ⟨opening, hopening⟩ := List.length_eq_one_iff.1 h.opening
  obtain ⟨closing, hclosing⟩ := List.length_eq_one_iff.1 h.closing
  refine ⟨opening, closing, hopening, hclosing, ?_⟩
  unfold ofType at hopening hclosing
  unfold braces?
  simp only [hopening, hclosing]
  rfl

/-! ## One entry -/

/-- The braces of a declaration are directly below one node. -/
theorem Holds.unique {n b b' : Node} (h : Holds n b) (h' : Holds n b') : b = b' := by
  -- The type of the node tells where its braces are.
  cases h with
  | block htype hparts =>
    cases h' with
    | block htype' hparts' => exact List.singleton_inj.1 (hparts.symm.trans hparts')
    | struct htype' => rcases htype with htype | htype <;> simp [htype] at htype'
    | interface htype' => rcases htype with htype | htype <;> simp [htype] at htype'
  | struct htype hparts hstruct hlist =>
    cases h' with
    | block htype' => simp [htype] at htype'
    | struct htype' hparts' hstruct' hlist' =>
      -- The struct is the same, and it has one list of fields.
      cases hparts.symm.trans hparts'
      exact List.singleton_inj.1 (hlist.symm.trans hlist')
    | interface htype' hparts' hinterface =>
      cases hparts.symm.trans hparts'
      simp [hstruct] at hinterface
  | interface htype hparts hinterface =>
    cases h' with
    | block htype' => simp [htype] at htype'
    | struct htype' hparts' hstruct =>
      cases hparts.symm.trans hparts'
      simp [hstruct] at hinterface
    | interface htype' hparts' => exact List.singleton_inj.1 (hparts.symm.trans hparts')

/-- A node has one name. -/
private theorem Named.unique {n : Node} {s s' : String} (h : Named lib text n s)
    (h' : Named lib text n s') : s = s' := by
  cases h with
  -- A method has its receiver in front of its name, and every other declaration does not.
  | plain htype hname htext =>
    cases h' with
    | plain htype' hname' htext' =>
      cases hname.symm.trans hname'
      cases htext.symm.trans htext'
      rfl
    | method htype' => exact absurd htype' htype
  | method htype hreceiver hbase hname htext =>
    cases h' with
    | plain htype' => exact absurd htype htype'
    | method htype' hreceiver' hbase' hname' htext' =>
      cases hname.symm.trans hname'
      cases htext.symm.trans htext'
      cases hreceiver.symm.trans hreceiver'
      cases hbase.symm.trans hbase'
      rfl

/-- A node has one entry. -/
theorem Declares.unique (h : Declares lib text l d) (h' : Declares lib text l d') : d = d' := by
  obtain ⟨b, hb, hopening, hclosing⟩ := h.braces
  obtain ⟨b', hb', hopening', hclosing'⟩ := h'.braces
  obtain rfl := hb.unique hb'
  have hkind : d.kind = d'.kind := h.kind.trans h'.kind.symm
  have hname : d.name = d'.name := h.name.unique h'.name
  have hstart : d.start = d'.start := h.start.trans h'.start.symm
  have hlead : d.lead = d'.lead := h.lead.trans h'.lead.symm
  have hopen : d.opening = d'.opening := List.singleton_inj.1 (hopening.symm.trans hopening')
  have hclose : d.closing = d'.closing := List.singleton_inj.1 (hclosing.symm.trans hclosing')
  cases d
  cases d'
  simp only [Declaration.mk.injEq]
  exact ⟨hkind, hname, hstart, hopen, hclose, hlead⟩

/-! ## What is found -/

/-- Every node of a tree has its text. -/
theorem exists_text (h : Conforms lib text) (hl : l ∈ (lib.parse (Text.encode text)).located) :
    ∃ s, l.node.text (Text.encode text) = .ok s := by
  obtain ⟨hstart, hstop⟩ := h.boundary l hl
  obtain ⟨s, hs⟩ := Text.exists_piece hstart hstop (h.regular l hl).laid.le
  exact ⟨s, hs.slice_eq⟩

/-- A type starts where its declaration does, and the keyword goes in front of it in a group. -/
private theorem typeStart_eq (h : IsSpec l) (htype : l.node.type = "type_spec") :
    typeStart l = (startOf l, if inGroup l then "type " else "") := by
  obtain ⟨p, hp, hptype⟩ := h.parent
  have hp : l.parent = some p := hp
  have hgroup : inGroup l = grouped p := by
    rw [inGroup, htype, hp]
    rfl
  have hany : p.children.any (fun c => c.type = "(") = grouped p := rfl
  unfold typeStart startOf
  rw [hgroup, htype, hp]
  dsimp only
  rw [hany, hptype]
  cases grouped p <;> rfl

/-- A node inside of another one stands at positions where the text can be cut. -/
private theorem exists_text_of_mem_children (h : Conforms lib text)
    (hl : l ∈ (lib.parse (Text.encode text)).located) (hc : n ∈ l.node.children) :
    ∃ s, n.text (Text.encode text) = .ok s :=
  exists_text (l := ⟨n, some l.node⟩) h (mem_located_of_mem_children hl hc)

/-- A node of a type with braces has them. -/
private theorem braced_of_mem_children (h : Conforms lib text)
    (hl : l ∈ (lib.parse (Text.encode text)).located) (hb : b ∈ l.node.children)
    (htype : b.type ∈ bracedTypes) : Braced b :=
  (h.regular _ (mem_located_of_mem_children hl hb)).braced htype

/-- The one part with a field is a child. -/
private theorem mem_children_of_parts {field : String} {c : Node} (h : parts [field] n = [c]) :
    c ∈ n.children :=
  (List.mem_filter.1 (h ▸ List.mem_singleton_self c)).1

/-- The one child of a type is a child of that type. -/
private theorem of_ofType {type : String} {c : Node} (h : ofType type n = [c]) :
    c ∈ n.children ∧ c.type = type := by
  have hmem : c ∈ ofType type n := h ▸ List.mem_singleton_self c
  simpa [ofType] using hmem

/-- The entry that is made of what is found is that of the declaration. -/
private theorem ofMatch_function {name body : Node} (h : Conforms lib text)
    (hl : l ∈ (lib.parse (Text.encode text)).located) (htype : l.node.type = "function_declaration")
    (hname : parts ["name"] l.node = [name]) (hbody : parts ["body"] l.node = [body])
    (hblock : body.type = "block") :
    ∃ d, ofMatch lib (Text.encode text) ⟨0, [("declaration", l), ("name", ⟨name, some l.node⟩),
      ("body", ⟨body, some l.node⟩)]⟩ = .ok (some d) ∧ Declares lib text l d := by
  obtain ⟨opening, closing, hopening, hclosing, hbraces⟩ := exists_braces
    (braced_of_mem_children h hl (mem_children_of_parts hbody) (by rw [hblock]; decide))
  obtain ⟨s, hs⟩ := exists_text_of_mem_children h hl (mem_children_of_parts hname)
  obtain ⟨hgroup, hstart⟩ := startOf_of_ne (by rw [htype]; decide : l.node.type ≠ "type_spec")
  -- The entry is what is read from the captures.
  refine ⟨{ kind := .function, name := s, start := l.node.start, opening, closing }, ?_, ?_⟩
  · simp only [ofMatch, Match.captured, List.lookup_cons, beq_self_eq_true, String.reduceBEq, bind,
      Except.bind, hbraces, hs]
    rfl
  · exact ⟨by rw [htype]; rfl, .plain (by rw [htype]; decide) hname hs, hstart.symm,
      by rw [hgroup]; rfl, body, .block (.inl htype) hbody hblock, hopening, hclosing⟩

/-- What is found at a method is made its entry of, or its receiver is too high. -/
private theorem ofMatch_method {receiver name body : Node} {m : Match} (h : Conforms lib text)
    (hl : l ∈ (lib.parse (Text.encode text)).located) (htype : l.node.type = "method_declaration")
    (hreceiver : parts ["receiver"] l.node = [receiver]) (hname : parts ["name"] l.node = [name])
    (hbody : parts ["body"] l.node = [body]) (hblock : body.type = "block")
    (hm : m = ⟨1, [("declaration", l), ("receiver", ⟨receiver, some l.node⟩),
      ("name", ⟨name, some l.node⟩), ("body", ⟨body, some l.node⟩)]⟩) :
    (∃ d, ofMatch lib (Text.encode text) m = .ok (some d) ∧ Declares lib text l d) ∨
      ∃ e, receiverName lib (Text.encode text) receiver = .error e ∧
        ofMatch lib (Text.encode text) m = .error e := by
  subst hm
  obtain ⟨opening, closing, hopening, hclosing, hbraces⟩ := exists_braces
    (braced_of_mem_children h hl (mem_children_of_parts hbody) (by rw [hblock]; decide))
  obtain ⟨s, hs⟩ := exists_text_of_mem_children h hl (mem_children_of_parts hname)
  obtain ⟨hgroup, hstart⟩ := startOf_of_ne (by rw [htype]; decide : l.node.type ≠ "type_spec")
  -- Only the name of the receiver can be too deep to be found.
  cases hbase : receiverName lib (Text.encode text) receiver with
  | error e =>
    refine .inr ⟨e, rfl, ?_⟩
    simp only [ofMatch, Match.captured, List.lookup_cons, beq_self_eq_true, String.reduceBEq, bind,
      Except.bind, hbraces, hs, hbase]
  | ok base =>
    refine .inl ⟨{ kind := .function, name := base ++ "." ++ s, start := l.node.start, opening,
                   closing }, ?_, ?_⟩
    · simp only [ofMatch, Match.captured, List.lookup_cons, beq_self_eq_true,
        String.reduceBEq, bind,
        Except.bind, hbraces, hs, hbase]
      rfl
    · exact ⟨by rw [htype]; rfl, .method htype hreceiver hbase hname hs, hstart.symm,
        by rw [hgroup]; rfl, body, .block (.inr htype) hbody hblock, hopening, hclosing⟩

/-- The same for a type, whatever node has the braces. -/
private theorem ofMatch_spec {name : Node} {pattern : Nat} (holder : Located)
    (h : Conforms lib text) (hl : l ∈ (lib.parse (Text.encode text)).located)
    (htype : l.node.type = "type_spec") (hname : parts ["name"] l.node = [name])
    (hholds : Holds l.node holder.node) (hbraced : Braced holder.node) (hpattern : 2 ≤ pattern) :
    ∃ d, ofMatch lib (Text.encode text) ⟨pattern, [("declaration", l),
      ("name", ⟨name, some l.node⟩), ("body", holder)]⟩ = .ok (some d) ∧ Declares lib text l d := by
  obtain ⟨opening, closing, hopening, hclosing, hbraces⟩ := exists_braces hbraced
  obtain ⟨s, hs⟩ := exists_text_of_mem_children h hl (mem_children_of_parts hname)
  refine ⟨{ kind := .type, name := s, start := startOf l, opening, closing,
            lead := if inGroup l then "type " else "" }, ?_, ?_⟩
  -- The last two patterns are read in the same way.
  · obtain ⟨pattern, rfl⟩ := Nat.exists_eq_add_of_le' hpattern
    simp only [ofMatch, Match.captured, List.lookup_cons, beq_self_eq_true, String.reduceBEq, bind,
      Except.bind, hbraces, hs, typeStart_eq ((h.regular l hl).spec htype) htype]
    rfl
  · exact ⟨by rw [htype]; rfl, .plain (by rw [htype]; decide) hname hs, rfl, rfl,
      holder.node, hholds, hopening, hclosing⟩

/-- What is found at a declaration is made its entry of, unless the receiver of a method is too
    high. -/
theorem ofMatch_cases (h : Conforms lib text) (hl : l ∈ (lib.parse (Text.encode text)).located)
    (hm : Captured l m) :
    (∃ d, ofMatch lib (Text.encode text) m = .ok (some d) ∧ Declares lib text l d) ∨
      ∃ receiver e, l.node.type = "method_declaration" ∧ parts ["receiver"] l.node = [receiver] ∧
        receiverName lib (Text.encode text) receiver = .error e ∧
        ofMatch lib (Text.encode text) m = .error e := by
  -- A match is read by the shape of the node that it was found at.
  cases hm with
  | function htype hname hbody hblock => exact .inl (ofMatch_function h hl htype hname hbody hblock)
  | method htype hreceiver hname hbody hblock =>
    rcases ofMatch_method h hl htype hreceiver hname hbody hblock rfl with hd | ⟨e, hbase, he⟩
    · exact .inl hd
    · exact .inr ⟨_, e, htype, hreceiver, hbase, he⟩
  | @struct name what list htype hname hwhat hstruct hlist =>
    -- The braces of a struct are those of its list of fields.
    obtain ⟨hlistMem, hlistType⟩ := of_ofType hlist
    have hwhatMem := mem_located_of_mem_children hl (mem_children_of_parts hwhat)
    have hbraced := braced_of_mem_children h hwhatMem hlistMem (by rw [hlistType]; decide)
    have hholds : Holds l.node list := .struct htype hwhat hstruct hlist
    exact .inl (ofMatch_spec ⟨list, some what⟩ h hl htype hname hholds hbraced (by decide))
  | @interface name what htype hname hwhat hinterface =>
    have hbraced := braced_of_mem_children h hl (mem_children_of_parts hwhat)
      (by rw [hinterface]; decide)
    have hholds : Holds l.node what := .interface htype hwhat hinterface
    exact .inl (ofMatch_spec ⟨what, some l.node⟩ h hl htype hname hholds hbraced (by decide))

/-! ## Spans -/

/-- A node that ends with a part of a kind ends with the only such part. -/
private theorem stop_of_endsWith {certain : Node → Bool} {c : Node} (h : EndsWith certain n)
    (hc : n.children.filter certain = [c]) : n.children.getLast? = some c ∧ c.stop = n.stop := by
  obtain ⟨last, hlast, hcertain, hstop⟩ := h
  have hmem : last ∈ n.children.filter certain :=
    List.mem_filter.2 ⟨List.mem_of_mem_getLast? hlast, hcertain⟩
  rw [hc] at hmem
  obtain rfl := List.mem_singleton.1 hmem
  exact ⟨hlast, hstop⟩

/-- The braces of a declaration are at the end of its node. -/
theorem holds_placed (h : Conforms lib text) (hl : l ∈ (lib.parse (Text.encode text)).located)
    (hb : Holds l.node b) :
    (∃ above, ⟨b, above⟩ ∈ (lib.parse (Text.encode text)).located) ∧ Braced b ∧
      l.node.start ≤ b.start ∧ b.stop = l.node.stop := by
  have hregular := h.regular l hl
  cases hb with
  | block htype hparts hblock =>
    have hmem := mem_children_of_parts hparts
    -- The block is the last part of the function.
    have hends : EndsWith (·.field = some "body") l.node := by
      have hne : parts ["body"] l.node ≠ [] := by rw [hparts]; exact List.cons_ne_nil _ _
      rcases htype with htype | htype
      · exact (hregular.function htype).ends hne
      · exact (hregular.method htype).ends hne
    exact ⟨⟨_, mem_located_of_mem_children hl hmem⟩,
      braced_of_mem_children h hl hmem (by rw [hblock]; decide), (hregular.laid.mem hmem).1,
      (stop_of_endsWith hends ((parts_eq_children _ _).symm.trans hparts)).2⟩
  | @struct what _ htype hparts hstruct hlist =>
    have hmem := mem_children_of_parts hparts
    have hwhat := mem_located_of_mem_children hl hmem
    obtain ⟨hlistMem, hlistType⟩ := of_ofType hlist
    have hregular' := h.regular _ hwhat
    -- The type ends where its declaration does, and the list where the type does.
    have hstop := (stop_of_endsWith
      (hregular.spec htype).ends ((parts_eq_children _ _).symm.trans hparts)).2
    have hstop' := (stop_of_endsWith (hregular'.struct hstruct).2 hlist).2
    exact ⟨⟨_, mem_located_of_mem_children hwhat hlistMem⟩,
      braced_of_mem_children h hwhat hlistMem (by rw [hlistType]; decide),
      Nat.le_trans (hregular.laid.mem hmem).1 (hregular'.laid.mem hlistMem).1,
      hstop'.trans hstop⟩
  | interface htype hparts hinterface =>
    have hmem := mem_children_of_parts hparts
    exact ⟨⟨_, mem_located_of_mem_children hl hmem⟩,
      braced_of_mem_children h hl hmem (by rw [hinterface]; decide), (hregular.laid.mem hmem).1,
      (stop_of_endsWith (hregular.spec htype).ends ((parts_eq_children _ _).symm.trans hparts)).2⟩

/-- The opening brace is in front of the closing one, which is the last thing of the declaration. -/
theorem Declares.placed (hd : Declares lib text l d) (h : Conforms lib text)
    (hl : l ∈ (lib.parse (Text.encode text)).located) :
    (∃ b, ⟨d.opening, some b⟩ ∈ (lib.parse (Text.encode text)).located ∧
        ⟨d.closing, some b⟩ ∈ (lib.parse (Text.encode text)).located) ∧
      d.opening.type = "\x7b" ∧ d.closing.type = "\x7d" ∧
      d.start ≤ d.opening.start ∧ d.opening.stop ≤ d.closing.start ∧
      d.closing.stop = l.node.stop := by
  obtain ⟨b, hb, hopening, hclosing⟩ := hd.braces
  obtain ⟨⟨above, habove⟩, hbraced, hstart, hstop⟩ := holds_placed h hl hb
  obtain ⟨hopeningMem, hopeningType⟩ := of_ofType hopening
  obtain ⟨hclosingMem, hclosingType⟩ := of_ofType hclosing
  -- Below the node with the braces everything stands in order.
  have hlaid := (h.regular _ habove).laid
  obtain ⟨hlast, hlastStop⟩ := stop_of_endsWith hbraced.ends hclosing
  have hbefore := startOf_le_start h.regular hl
  have hfirst := (hlaid.mem hopeningMem).1
  refine ⟨⟨b, mem_located_of_mem_children habove hopeningMem,
    mem_located_of_mem_children habove hclosingMem⟩, hopeningType, hclosingType, ?_, ?_,
    hlastStop.trans hstop⟩
  · rw [hd.start]
    dsimp only at hfirst
    omega
  · -- The closing brace is the last of the nodes, so the opening one is in front of it.
    obtain ⟨front, hchildren⟩ := List.getLast?_eq_some_iff.1 hlast
    have hpairwise := hlaid.pairwise
    dsimp only at hpairwise
    rw [hchildren] at hpairwise hopeningMem
    rcases List.mem_append.1 hopeningMem with hmem | hmem
    · exact (List.pairwise_append.1 hpairwise).2.2 _ hmem _ List.mem_cons_self
    · rw [List.mem_singleton.1 hmem, hclosingType] at hopeningType
      exact absurd hopeningType (by decide)

end Transclude.Go
