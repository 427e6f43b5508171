import Transclude.Proofs.Go.Move
import Transclude.Proofs.Go.Slice
import Transclude.Proofs.Tool

/-!
# Excerpts that are stored and restored

A declaration says the same wherever it stands: if it is read by itself, behind a package clause,
its nodes are the same in other places (`ReadsAlone`).  A library that reads every declaration of a
text like that (`Rereads`) takes the text of an excerpt apart into the excerpt that it comes from,
and also the text of the declaration itself (`extract_restored`).  So a tool that gives this text
agrees with what is cut out of the source here.
-/

namespace Transclude.Go

open Syntax (Node Located families Node.family_eq families_eq_flatMap)

variable {lib : Library} {text source name : String} {kind : Kind} {place : Node → Nat × Nat}
  {l l' m : Located} {d d' : Declaration} {ds : List Declaration} {s : Snippet}

/-! ## Reading a declaration by itself -/

/-- The clause in front of a declaration that is read by itself. -/
def clause : String := "package dummy\n"

/-- The place of a node of a declaration that is read by itself, with `gap` more bytes behind the
    opening brace. -/
def placeAlone (d : Declaration) (gap : Nat) (n : Node) : Nat × Nat :=
  let front := (clause ++ d.lead).utf8ByteSize
  (front + (n.start - d.start) + if d.opening.stop ≤ n.start then gap else 0,
    front + (n.stop - d.start) + if d.opening.stop ≤ n.start ∨
    d.opening.stop < n.stop then gap else 0)

/-- A node of a file stands for the declaration alone.  A type has the keyword in front of it, which
    starts the node above. -/
inductive Alone (place : Node → Nat × Nat) (l : Located) : Node → Prop where
  | itself (htype : l.node.type ≠ "type_spec") : Alone place l (l.node.move place)
  | type {n : Node} (htype : l.node.type = "type_spec") (habove : n.type = "type_declaration")
    (hungrouped : grouped n = false) (hmem : l.node.move place ∈ n.children)
    (hstart : n.start = clause.utf8ByteSize) : Alone place l n

/-- The library reads a text as a file with one declaration, which has the same nodes as `l`. -/
structure ReadsAlone (lib : Library) (text : String) (place : Node → Nat × Nat) (l : Located) :
    Prop where
  valid : (lib.parse (Text.encode text)).hasError = false
  conforms : Conforms lib text
  file : (lib.parse (Text.encode text)).root.type = "source_file"
  nodes : ∃ front declaration,
    branches (lib.parse (Text.encode text)).root = front ++ [declaration] ∧
      (∀ n ∈ front, n.type = "package_clause" ∧ ∀ c ∈ n.children, c.children = []) ∧
      Alone place l declaration

/-- The library reads the declarations of a text by themselves like in the text, also with a newline
    behind the opening brace. -/
def Rereads (lib : Library) (text : String) : Prop :=
  ∀ l ∈ (lib.parse (Text.encode text)).located, declares l.node = true →
    ∀ d definition body, Declares lib text l d → Sliced text d definition body →
      ∀ gap ∈ ["", "\n"],
        ReadsAlone lib (packaged (d.lead ++ definition ++ "\x7b" ++ gap ++ body ++ "\x7d"))
          (placeAlone d gap.utf8ByteSize) l

/-! ## Nodes of a declaration that is read by itself -/

/-- A node without branches below declares nothing, and neither do the nodes below. -/
private theorem filter_family_of_branches {n : Node} (parent : Option Node)
    (hn : declares n = false) (hbranches : branches n = []) :
    (n.family parent).filter (fun l => declares l.node) = [] := by
  rw [Node.family_eq, List.filter_cons_of_neg (by rw [hn]; decide), filter_families, hbranches]
  rfl

/-- The declarations of a file with one declaration are those from its node on. -/
private theorem ReadsAlone.filter_located (h : ReadsAlone lib text place l) :
    ∃ root n, Alone place l n ∧ ⟨n, some root⟩ ∈ (lib.parse (Text.encode text)).located ∧
      (lib.parse (Text.encode text)).located.filter (fun l => declares l.node) =
        (n.family (some root)).filter fun l => declares l.node := by
  obtain ⟨front, n, hbranches, hfront, halone⟩ := h.nodes
  -- Neither the file nor what stands in front of the declaration declares anything.
  have hroot : declares (lib.parse (Text.encode text)).root = false := by
    simp [declares, h.file]
  have hclause : (families (some (lib.parse (Text.encode text)).root) front).filter
      (fun l => declares l.node) = [] := by
    rw [families_eq_flatMap, List.filter_flatMap, List.flatMap_eq_nil_iff]
    intro n hn
    obtain ⟨htype, hwords⟩ := hfront n hn
    refine filter_family_of_branches _ (by simp [declares, htype]) ?_
    exact List.filter_eq_nil_iff.2 fun c hc => by simp [hwords c hc]
  have hmem : n ∈ branches (lib.parse (Text.encode text)).root := by
    rw [hbranches]
    exact List.mem_append_right front List.mem_cons_self
  -- What is left is the declaration with all that is below it.
  refine ⟨_, n, halone, Syntax.mem_family_of_mem_children (List.mem_filter.1 hmem).1
    (n.self_mem_family _), ?_⟩
  rw [Syntax.Tree.located, Node.family_eq, List.filter_cons_of_neg (by rw [hroot]; decide),
    filter_families, hbranches, families_eq_flatMap, List.flatMap_append, ← families_eq_flatMap,
    List.filter_append, hclause, List.nil_append, List.flatMap_singleton]

/-- Of the nodes of a type by itself only the type has nodes below. -/
private theorem branches_of_ungrouped {n c : Node} (hn : IsGroup n) (hungrouped : grouped n = false)
    (hc : c ∈ n.children) (hheaded : Headed c) : branches n = [c] := by
  obtain ⟨word, hword, -⟩ := hheaded
  have hchildren : c.children ≠ [] := List.ne_nil_of_mem (List.mem_of_mem_head? hword)
  have hmem : c ∈ branches n := List.mem_filter.2 ⟨hc, by simp [hchildren]⟩
  have hpos := List.length_pos_of_mem hmem
  have hle : (branches n).length ≤ 1 := hn.single hungrouped
  obtain ⟨c', hc'⟩ := List.length_eq_one_iff.1 (by omega : (branches n).length = 1)
  rw [hc'] at hmem ⊢
  rw [List.mem_singleton.1 hmem]

/-- The declarations of a file with one declaration are those from the moved node on.  What is above
    it starts behind the clause. -/
private theorem ReadsAlone.exists_parent (h : ReadsAlone lib text place l) :
    ∃ parent, (lib.parse (Text.encode text)).located.filter (fun l => declares l.node) =
        ((l.node.move place).family parent).filter (fun l => declares l.node) ∧
      (l.node.type ≠ "type_spec" ∨ ∃ p, parent = some p ∧ grouped p = false ∧
        p.start = clause.utf8ByteSize) := by
  obtain ⟨root, n, halone, hn, hfilter⟩ := h.filter_located
  -- The node is read itself, or as the one type of its declaration.
  cases halone with
  | itself htype => exact ⟨some root, hfilter, .inl htype⟩
  | type htype habove hungrouped hmem hstart =>
    refine ⟨some n, ?_, .inr ⟨n, rfl, hungrouped, hstart⟩⟩
    -- The declaration of one type starts where its word does, and has nothing else below it.
    have hspec := h.conforms.regular _ (Syntax.mem_located_of_mem_children hn hmem)
    have hheaded := (hspec.spec (by rwa [Node.type_move])).headed
    have hgroup := (h.conforms.regular _ hn).group habove
    rw [hfilter, Node.family_eq, List.filter_cons_of_neg (by simp [declares, habove]),
      filter_families, branches_of_ungrouped hgroup hungrouped hmem hheaded, families, families,
      List.append_nil]

/-- The first declaration of a file with one declaration is that one, and it starts behind the
    clause.  All others are in it. -/
private theorem ReadsAlone.exists_cons (h : ReadsAlone lib text place l)
    (hl : declares l.node = true)
    (hplace : l.node.type ≠ "type_spec" → (place l.node).1 = clause.utf8ByteSize) :
    ∃ l' rest, (lib.parse (Text.encode text)).located.filter
      (fun l => declares l.node) = l' :: rest ∧
      l'.node = l.node.move place ∧ inGroup l' = false ∧ startOf l' = clause.utf8ByteSize ∧
      ∀ l'' ∈ l' :: rest, ∃ m ∈ l.node.family l.parent, l''.node = m.node.move place := by
  obtain ⟨parent, hfilter, hparent⟩ := h.exists_parent
  have hmoved : declares (l.node.move place) = true := by rwa [declares_move]
  -- Everything below the declaration is the moved copy of something below the node.
  have hmem : ∀ l'' ∈ (lib.parse (Text.encode text)).located.filter (fun l => declares l.node),
      ∃ m ∈ l.node.family l.parent, l''.node = m.node.move place := by
    intro l'' hl''
    rw [hfilter] at hl''
    exact Syntax.exists_of_mem_family_move parent (List.mem_filter.1 hl'').1 l.parent
  rw [Node.family_eq, List.filter_cons, if_pos hmoved] at hfilter
  refine ⟨_, _, hfilter, rfl, ?_, ?_, hfilter ▸ hmem⟩
  -- A type alone is in no group.
  · rcases hparent with htype | ⟨p, rfl, hungrouped, -⟩
    · exact (startOf_of_ne (by rwa [Node.type_move])).1
    · simp [inGroup, hungrouped]
  -- It starts behind the clause, whether the node itself or its declaration is there.
  · rcases hparent with htype | ⟨p, rfl, hungrouped, hstart⟩
    · rw [(startOf_of_ne (by rwa [Node.type_move])).2]
      exact (Node.start_move l.node).trans (hplace htype)
    · by_cases htype : l.node.type = "type_spec"
      · simp [startOf, inGroup, hungrouped, htype, hstart]
      · rw [(startOf_of_ne (by rwa [Node.type_move])).2]
        exact (Node.start_move l.node).trans (hplace htype)

/-! ## The entry of a declaration that is read by itself -/

/-- The first entry of a file with one declaration is that of the moved node. -/
private theorem ReadsAlone.exists_entry {text' : String} (h : ReadsAlone lib text' place l)
    (hentries : List.Forall₂ (Declares lib text)
      ((lib.parse (Text.encode text)).located.filter fun l => declares l.node) ds)
    (hl : l ∈ (lib.parse (Text.encode text)).located) (hdeclares : declares l.node = true)
    (hplace : l.node.type ≠ "type_spec" → (place l.node).1 = clause.utf8ByteSize) :
    ∃ l' d' rest, declarations lib (Text.encode text') = .ok (d' :: rest) ∧
      Declares lib text' l' d' ∧ l'.node = l.node.move place ∧
      d'.start = clause.utf8ByteSize ∧ d'.lead = "" := by
  obtain ⟨l', rest, hfilter, hnode, hgroup, hstart, hmoved⟩ := h.exists_cons hdeclares hplace
  -- A receiver that is too high would be too high in the other text.
  have hlost : ∀ l'' ∈ (lib.parse (Text.encode text')).located, ¬ Lost lib text' l'' := by
    intro l'' hl'' hlost
    have hmem : l'' ∈ l' :: rest := hfilter ▸ List.mem_filter.2 ⟨hl'', hlost.2.1⟩
    obtain ⟨m, hm, hm'⟩ := hmoved l'' hmem
    have hmDeclares : declares m.node = true := by
      have := hlost.2.1
      rwa [hm', declares_move] at this
    obtain ⟨d, -, hd⟩ := exists_of_mem_left hentries
      (List.mem_filter.2 ⟨Node.family_subset hl hm, hmDeclares⟩)
    exact not_lost_of_move h.conforms hl'' hm' hd hlost
  obtain ⟨ds', hds', hentries'⟩ := declarations_of_not_lost h.conforms h.valid hlost
  rw [hfilter] at hentries'
  -- The first entry is that of the declaration.
  cases hentries' with
  | @cons _ d' _ rest' hd' _ =>
    refine ⟨l', d', rest', hds', hd', hnode, hd'.start.trans hstart, ?_⟩
    rw [hd'.lead, hgroup]
    rfl

/-- The places of the braces of a declaration that is read by itself. -/
private theorem placeAlone_braces {definition body : String} (h : Sliced text d definition body)
    (gap : Nat) :
    (placeAlone d gap d.opening).1 = (clause ++ (d.lead ++ definition)).utf8ByteSize ∧
    (placeAlone d gap d.opening).2 = (clause ++ (d.lead ++ definition) ++ "\x7b").utf8ByteSize ∧
    (placeAlone d gap d.closing).1 =
      (clause ++ (d.lead ++ definition) ++ "\x7b").utf8ByteSize + gap + body.utf8ByteSize := by
  -- All positions follow from the sizes of the parts.
  have hbrace : ("\x7b" : String).utf8ByteSize = 1 := rfl
  have hdefinition := h.definition.size_eq
  have hopening := h.opening.size_eq
  have hbody := h.body.size_eq
  have hclosing := h.closing.size_eq
  rw [hbrace] at hopening
  simp only [placeAlone, String.utf8ByteSize_append, hbrace]
  rw [if_neg (by omega), if_neg (by omega), if_pos (by omega)]
  omega

/-- What is not a type starts behind the clause. -/
private theorem placeAlone_start (h : Conforms lib text)
    (hl : l ∈ (lib.parse (Text.encode text)).located) (hd : Declares lib text l d)
    {definition body : String} (hsliced : Sliced text d definition body) (gap : Nat)
    (htype : l.node.type ≠ "type_spec") : (placeAlone d gap l.node).1 = clause.utf8ByteSize := by
  obtain ⟨hgroup, hstart⟩ := startOf_of_ne htype
  obtain ⟨-, -, -, hle, -⟩ := hd.placed h hl
  have hbrace : ("\x7b" : String).utf8ByteSize = 1 := rfl
  have hopening := hsliced.opening.size_eq
  rw [hbrace] at hopening
  -- Only types have a lead.
  have hlead : d.lead = "" := by
    rw [hd.lead, hgroup]
    rfl
  have hdstart : d.start = l.node.start := hd.start.trans hstart
  rw [placeAlone, hlead, String.append_empty, hdstart, if_neg (by omega)]
  omega

/-- A text that ends in a brace gets a newline. -/
private theorem terminated_brace (text : String) :
    terminated (text ++ "\x7d") = text ++ "\x7d" ++ "\n" := by
  refine if_neg ?_
  rw [String.toList_append, List.getLast?_append]
  exact fun h => absurd (Option.some.inj h) (by decide)

/-- A text that ends in a newline stays as it is. -/
private theorem terminated_newline (text : String) : terminated (text ++ "\n") = text ++ "\n" := by
  refine if_pos ?_
  rw [String.toList_append, List.getLast?_append]
  rfl

/-- A declaration by itself is taken apart like in the text that it is from. -/
private theorem split_alone {definition body gap shown : String} (h : Conforms lib text)
    (hrereads : Rereads lib text)
    (hentries : List.Forall₂ (Declares lib text)
      ((lib.parse (Text.encode text)).located.filter fun l => declares l.node) ds)
    (hl : l ∈ (lib.parse (Text.encode text)).located) (hdeclares : declares l.node = true)
    (hd : Declares lib text l d) (hsliced : Sliced text d definition body)
    (hgap : gap ∈ ["", "\n"]) (hshown : Shown (gap ++ body) shown) (name : String) :
    split lib name (d.lead ++ definition ++ "\x7b" ++ gap ++ body ++ "\x7d") =
      .ok ⟨name, d.lead ++ definition, shown, true⟩ := by
  -- The text is read alone, and its first entry is the moved one.
  have halone := hrereads l hl hdeclares d definition body hd hsliced gap hgap
  generalize hown : d.lead ++ definition ++ "\x7b" ++ gap ++ body ++ "\x7d" = own at halone ⊢
  obtain ⟨l', d', rest, hds, hd', hnode, hstart, hlead⟩ := halone.exists_entry hentries hl hdeclares
    (placeAlone_start h hl hd hsliced _)
  obtain ⟨-, hopening, hclosing⟩ := hd.moved hd' hnode
  obtain ⟨hopeningStart, hopeningStop, hclosingStart⟩ :=
    placeAlone_braces hsliced gap.utf8ByteSize
  rw [← Node.start_move, ← hopening] at hopeningStart
  rw [← Node.stop_move, ← hopening] at hopeningStop
  rw [← Node.start_move, ← hclosing, Nat.add_assoc, ← String.utf8ByteSize_append] at hclosingStart
  -- The parts of the text are known, so the positions of the entry tell what is cut out.
  have htext : packaged own =
      clause ++ (d.lead ++ definition) ++ "\x7b" ++ (gap ++ body) ++ ("\x7d" ++ "\n") := by
    rw [← hown, packaged, terminated_brace]
    simp only [clause, String.append_assoc]
  have hdefinition : Text.Piece (packaged own) d'.start d'.opening.start (d.lead ++ definition) :=
    ⟨clause, "\x7b" ++ (gap ++ body) ++ ("\x7d" ++ "\n"), by
      rw [htext]; simp only [String.append_assoc],
      hstart.symm, hopeningStart.symm⟩
  have hbody : Text.Piece (packaged own) d'.opening.stop d'.closing.start (gap ++ body) :=
    ⟨clause ++ (d.lead ++ definition) ++ "\x7b", "\x7d" ++ "\n", htext, hopeningStop.symm, by
      rw [hclosingStart, String.utf8ByteSize_append]⟩
  have hsnippet := d'.snippet_eq hdefinition hbody hshown name
  rw [hlead, String.empty_append] at hsnippet
  simp only [split, hds, bind, Except.bind]
  exact hsnippet

/-! ## Storing and restoring -/

/-- A newline at the end of a declaration by itself does not matter. -/
private theorem split_newline (lib : Library) (name text : String) :
    split lib name (text ++ "\x7d" ++ "\n") = split lib name (text ++ "\x7d") := by
  have htext : packaged (text ++ "\x7d" ++ "\n") = packaged (text ++ "\x7d") := by
    rw [packaged, packaged, terminated_brace, terminated_newline]
  unfold split
  rw [htext]

/-- The text under which a declaration is stored is the declaration, with a newline behind the
    opening brace. -/
private theorem exists_gap {body shown : String} (hshown : Shown body shown) :
    ∃ gap ∈ ["", "\n"], Shown (gap ++ body) shown ∧ gap ++ body = "\n" ++ shown := by
  rcases hshown with rfl | ⟨hhead, rfl⟩
  · refine ⟨"", List.mem_cons_self, ?_, String.empty_append⟩
    rw [String.empty_append]
    exact .inl rfl
  · exact ⟨"\n", by decide, .inl rfl, rfl⟩

/-- A tool that gives the text of an excerpt gives the excerpt. -/
private theorem tool_extract_of_split (hkind : kind = .type ∨ kind = .function) {own : String}
    (h : split lib name own = .ok s) {tool : Tool} {run : ByteArray → Tool.Ending}
    {errors : ByteArray} (hstart : tool.start (Tool.argument kind name) = .ok run)
    (hrun : run (Text.encode source) = .exited 0 (Text.encode own) errors) :
    ∃ calls, tool.extract lib source name kind = (.finished (.ok s), calls) := by
  have hresult : Tool.result lib kind name 0 (Text.encode own) errors = .ok s := by
    rw [Tool.result, if_pos rfl, Text.decode_encode]
    exact h
  rcases hkind with rfl | rfl
  all_goals
    simp only [Tool.extract, hstart, hrun, Tool.converse_exited, hresult]
    exact ⟨_, rfl⟩

/-- An excerpt of a type or a function is restored from the text under which it is stored.  The text
    of its declaration is taken apart into the same excerpt, with or without a newline at its end,
    so a tool that gives this text gives the excerpt. -/
theorem extract_restored (hkind : kind = .type ∨ kind = .function)
    (hconforms : Conforms lib (terminated source)) (hrereads : Rereads lib (terminated source))
    (h : extract lib source name kind = .ok s) :
    restore lib name kind (serialize s) = .ok s ∧
    ∃ l d definition body, Wanted lib (terminated source) kind name l d ∧
      (∀ l' d', Wanted lib (terminated source) kind name l' d' → d.start ≤ d'.start) ∧
      Sliced (terminated source) d definition body ∧
      ∀ own, own = d.lead ++ definition ++ "\x7b" ++ body ++ "\x7d" ∨
          own = d.lead ++ definition ++ "\x7b" ++ body ++ "\x7d" ++ "\n" →
        split lib name own = .ok s ∧
        ∀ (tool : Tool) (run : ByteArray → Tool.Ending) (errors : ByteArray),
          tool.start (Tool.argument kind name) = .ok run →
          run (Text.encode source) = .exited 0 (Text.encode own) errors →
            ∃ calls, tool.extract lib source name kind = (.finished (.ok s), calls) := by
  -- What was cut out is the first entry that is wanted, and the text is sliced there.
  obtain ⟨ds, hds, hentries, hapart⟩ := entries_of_extract hkind hconforms h
  rcases extract_of_entries hkind hconforms hds hentries hapart with ⟨-, hnone⟩ |
    ⟨l, d, hw, hfirst, definition, body, shown, hsliced, hshown, hok⟩
  · rw [hnone] at h
    cases h
  · rw [hok] at h
    cases h
    -- With or without a gap behind the brace, the text of the declaration is taken apart.
    have hsplit : ∀ gap ∈ ["", "\n"], Shown (gap ++ body) shown →
        split lib name (d.lead ++ definition ++ "\x7b" ++ gap ++ body ++ "\x7d") =
          .ok ⟨name, d.lead ++ definition, shown, true⟩ := fun gap hgap hgapShown =>
      split_alone hconforms hrereads hentries hw.mem hw.declares hw.entry hsliced
      hgap hgapShown name
    refine ⟨?_, l, d, definition, body, hw, hfirst, hsliced, fun own hown => ?_⟩
    -- What is stored has a gap exactly where a newline was dropped.
    · obtain ⟨gap, hgap, hgapShown, hstored⟩ := exists_gap hshown
      have hrestore : restore lib name kind = split lib name := by
        rcases hkind with rfl | rfl <;> rfl
      have hserialize : serialize ⟨name, d.lead ++ definition, shown, true⟩ =
          d.lead ++ definition ++ "\x7b" ++ gap ++ body ++ "\x7d" := by
        have htext : d.lead ++ definition ++ "\x7b" ++ (gap ++ body) ++ "\x7d" =
            d.lead ++ definition ++ "\x7b" ++ gap ++ body ++ "\x7d" := by
          simp only [String.append_assoc]
        rw [← htext, hstored, serialize, if_pos rfl]
        simp only [String.append_assoc]
        rfl
      rw [hrestore, hserialize]
      exact hsplit gap hgap hgapShown
    -- The text of the declaration itself has no gap.
    · have hown : split lib name own = .ok ⟨name, d.lead ++ definition, shown, true⟩ := by
        have hsplit := hsplit "" List.mem_cons_self (by rwa [String.empty_append])
        rw [String.append_empty] at hsplit
        rcases hown with rfl | rfl
        · exact hsplit
        · rw [split_newline]
          exact hsplit
      exact ⟨hown, fun tool run errors hstart hrun =>
        tool_extract_of_split hkind hown hstart hrun⟩

/-! ## Texts with one declaration -/

instance (place : Node → Nat × Nat) (l : Located) (n : Node) : Decidable (Alone place l n) :=
  decidable_of_iff (l.node.type ≠ "type_spec" ∧ l.node.move place = n ∨
      l.node.type = "type_spec" ∧ n.type = "type_declaration" ∧ grouped n = false ∧
        l.node.move place ∈ n.children ∧ n.start = clause.utf8ByteSize) <| by
    constructor
    · rintro (⟨htype, rfl⟩ | ⟨htype, habove, hungrouped, hmem, hstart⟩)
      · exact .itself htype
      · exact .type htype habove hungrouped hmem hstart
    · intro h
      cases h with
      | itself htype => exact .inl ⟨htype, rfl⟩
      | type htype habove hungrouped hmem hstart =>
        exact .inr ⟨htype, habove, hungrouped, hmem, hstart⟩

/-- The nodes that may have the braces of a declaration. -/
def holders (n : Node) : List Node :=
  parts ["body"] n ++ (parts ["type"] n).flatMap fun what =>
    what :: ofType "field_declaration_list" what

/-- The node with the braces is one of those that may have them. -/
private theorem Holds.mem_holders {n b : Node} (h : Holds n b) : b ∈ holders n := by
  cases h with
  | block _ hparts => simp [holders, hparts]
  | struct _ hparts _ hlist => simp [holders, hparts, hlist]
  | interface _ hparts => simp [holders, hparts]

/-- A text is read as a file with the one declaration of another text. -/
def ReadsSingle (lib : Library) (text own : String) (place : Node → Nat × Nat) : Prop :=
  (lib.parse (Text.encode own)).hasError = false ∧
    (lib.parse (Text.encode own)).root.type = "source_file" ∧
    (branches (lib.parse (Text.encode own)).root).length = 1 ∧
    ∀ n ∈ branches (lib.parse (Text.encode own)).root,
      ∀ l ∈ (lib.parse (Text.encode text)).located, declares l.node = true → Alone place l n

instance (lib : Library) (text own : String) (place : Node → Nat × Nat) :
    Decidable (ReadsSingle lib text own place) :=
  inferInstanceAs (Decidable (_ ∧ _))

/-- The nodes of a text that declare something have the positions of one entry, the text says there
    what is given, and the declaration is read by itself like in the text. -/
structure Single (lib : Library) (text : String) (e : Declaration) (definition body : String) :
    Prop where
  entry : ∀ l ∈ (lib.parse (Text.encode text)).located, declares l.node = true →
    startOf l = e.start ∧ (if inGroup l then "type " else "") = e.lead ∧
      ∀ b ∈ holders l.node,
        (∀ n ∈ ofType "\x7b" b, n = e.opening) ∧ ∀ n ∈ ofType "\x7d" b, n = e.closing
  before : Text.Piece text e.start e.opening.start definition
  within : Text.Piece text e.opening.stop e.closing.start body
  conforms : ∀ gap ∈ ["", "\n"],
    Conforms lib (packaged (e.lead ++ definition ++ "\x7b" ++ gap ++ body ++ "\x7d"))
  reads : ∀ gap ∈ ["", "\n"], ReadsSingle lib text
    (packaged (e.lead ++ definition ++ "\x7b" ++ gap ++ body ++ "\x7d"))
    (placeAlone e gap.utf8ByteSize)

instance (text : String) (e : Declaration) (definition body : String) :
    Decidable (Single builtIn text e definition body) :=
  decidable_of_iff
    ((∀ l ∈ (builtIn.parse (Text.encode text)).located, declares l.node = true →
      startOf l = e.start ∧ (if inGroup l then "type " else "") = e.lead ∧
        ∀ b ∈ holders l.node,
          (∀ n ∈ ofType "\x7b" b, n = e.opening) ∧ ∀ n ∈ ofType "\x7d" b, n = e.closing) ∧
      Text.Piece text e.start e.opening.start definition ∧
      Text.Piece text e.opening.stop e.closing.start body ∧
      ∀ gap ∈ ["", "\n"],
        Conforms builtIn (packaged (e.lead ++ definition ++ "\x7b" ++ gap ++ body ++ "\x7d")) ∧
        ReadsSingle builtIn text
          (packaged (e.lead ++ definition ++ "\x7b" ++ gap ++ body ++ "\x7d"))
          (placeAlone e gap.utf8ByteSize))
    ⟨fun ⟨hentry, hbefore, hwithin, hown⟩ => ⟨hentry, hbefore, hwithin,
        fun gap hgap => (hown gap hgap).1, fun gap hgap => (hown gap hgap).2⟩,
      fun h => ⟨h.entry, h.before, h.within,
        fun gap hgap => ⟨h.conforms gap hgap, h.reads gap hgap⟩⟩⟩

namespace Single

variable {e : Declaration} {definition body : String}

/-- The declaration of a text with one declaration is known. -/
theorem eq {definition' body' : String} (h : Single lib text e definition body)
    (hl : l ∈ (lib.parse (Text.encode text)).located) (hdeclares : declares l.node = true)
    (hd : Declares lib text l d) (hsliced : Sliced text d definition' body') :
    d.lead = e.lead ∧ placeAlone d = placeAlone e ∧ definition' = definition ∧ body' = body := by
  -- Any entry has the positions of the one that is given.
  obtain ⟨hstart, hlead, hbraces⟩ := h.entry l hl hdeclares
  obtain ⟨b, hb, hopening, hclosing⟩ := hd.braces
  obtain ⟨hopen, hclose⟩ := hbraces b hb.mem_holders
  have hstart := hd.start.trans hstart
  have hlead := hd.lead.trans hlead
  have hopening := hopen _ (hopening ▸ List.mem_cons_self)
  have hclosing := hclose _ (hclosing ▸ List.mem_cons_self)
  have hdefinition := hsliced.definition
  have hbody := hsliced.body
  rw [hstart, hopening] at hdefinition
  rw [hopening, hclosing] at hbody
  refine ⟨hlead, ?_, hdefinition.eq h.before, hbody.eq h.within⟩
  -- The places are computed from these positions alone.
  funext gap n
  unfold placeAlone
  rw [hlead, hstart, hopening]

/-- For a text with one declaration it can be computed that it is read by itself like in the
    text. -/
theorem rereads (h : Single lib text e definition body) : Rereads lib text := by
  intro l hl hdeclares d definition' body' hd hsliced gap hgap
  obtain ⟨hlead, hplace, rfl, rfl⟩ := h.eq hl hdeclares hd hsliced
  rw [hlead, hplace]
  obtain ⟨hvalid, hroot, hlength, halone⟩ := h.reads gap hgap
  obtain ⟨declaration, hbranches⟩ := List.length_eq_one_iff.1 hlength
  refine ⟨hvalid, h.conforms gap hgap, hroot, [], declaration, hbranches, by simp, ?_⟩
  exact halone declaration (hbranches ▸ List.mem_singleton_self declaration) l hl hdeclares

end Single

/-! ### A type in a group -/

/-- An entry with the positions of the type in the group. -/
def groupEntry : Declaration :=
  { kind := .type, name := "V", start := 29, opening := .mk "\x7b" false none 58 59 [],
    closing := .mk "\x7d" false none 71 72 [], lead := "type " }

/-- The type of the group is its only entry, and it is read by itself like in the group. -/
private theorem single_groupText : Single builtIn groupText groupEntry
    "V[P interface\x7b M() \x7d] struct " "\n\n\t\tX, Y P\n\t" := by
  decide +kernel

/-- The text of the declaration in the group. -/
def groupOwnText : String :=
  "type V[P interface\x7b M() \x7d] struct \x7b\n\n\t\tX, Y P\n\t\x7d"

/-- A tool that gives the text of the declaration agrees with what is cut out of the group. -/
theorem extract_restored_groupText :
    Conforms builtIn (terminated groupText) ∧ Rereads builtIn (terminated groupText) ∧
      extract builtIn groupText "V" .type = .ok groupSnippet ∧
      restore builtIn "V" .type (serialize groupSnippet) = .ok groupSnippet ∧
      split builtIn "V" (groupOwnText ++ "\n") = .ok groupSnippet ∧
      ∃ calls, Tool.extract
        ⟨"pluck", fun _ => .ok fun _ => .exited 0 (Text.encode groupOwnText) .empty⟩ builtIn
          groupText "V" .type = (.finished (.ok groupSnippet), calls) := by
  have h : Conforms builtIn (terminated groupText) := terminated_groupText.symm ▸ conforms_groupText
  have hrereads : Rereads builtIn (terminated groupText) :=
    terminated_groupText.symm ▸ single_groupText.rereads
  obtain ⟨hrestore, l, d, definition, body, hw, -, hsliced, hown⟩ :=
    extract_restored (.inl rfl) h hrereads extract_groupText
  -- The entry that is wanted is the only one, so its text is known.
  obtain ⟨hmem, hdeclares, hd, -, -⟩ := hw
  rw [terminated_groupText] at hmem hd hsliced
  obtain ⟨hlead, -, rfl, rfl⟩ :=
    single_groupText.eq hmem hdeclares hd hsliced
  have htext : groupEntry.lead ++ "V[P interface\x7b M() \x7d] struct " ++ "\x7b" ++
      "\n\n\t\tX, Y P\n\t" ++ "\x7d" = groupOwnText := by decide
  rw [hlead, htext] at hown
  exact ⟨h, hrereads, extract_groupText, hrestore, (hown _ (.inr rfl)).1,
    (hown _ (.inl rfl)).2 _ _ .empty rfl rfl⟩

end Transclude.Go
