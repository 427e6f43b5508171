import Transclude.Proofs.Go.Restore
import Transclude.Proofs.Text.Meeting

/-!
# Go with carriage returns

A text with carriage returns in front of its newlines has the same nodes as without, in other places
(`Alike`).  So it has the same declarations, and the excerpts of a declaration are the same up to
carriage returns, unless the body starts with a newline (`extract_alike`): that newline is not
shown, but a carriage return and a newline are.
-/

namespace Transclude.Go

open Syntax (Node Located)

variable {lib : Library} {text text' source name : String} {kind : Kind}
  {place : Node → Nat × Nat} {l : Located} {n : Node} {d d' : Declaration}
  {ds ds' : List Declaration}

/-! ## Texts that are read alike -/

/-- The library reads two texts alike that are the same up to carriage returns: the nodes of the
    other text stand where the nodes of the one text do.  Only comments, which take a carriage
    return in, and newlines, which leave it out, may stand elsewhere. -/
structure Alike (lib : Library) (text text' : String) (place : Node → Nat × Nat) : Prop where
  conforms : Conforms lib text
  conforms' : Conforms lib text'
  hasError : (lib.parse (Text.encode text')).hasError = (lib.parse (Text.encode text)).hasError
  root : (lib.parse (Text.encode text')).root = (lib.parse (Text.encode text)).root.move place
  meet : ∀ l ∈ (lib.parse (Text.encode text)).located,
    l.node.field ≠ none ∨ l.node.type ∉ ["comment", "\n"] →
      Text.Meet text text' l.node.start (place l.node).1 ∧
        Text.Meet text text' l.node.stop (place l.node).2

namespace Alike

/-- The nodes of the other text are those of the one, at their places. -/
private theorem located_eq (h : Alike lib text text' place) :
    (lib.parse (Text.encode text')).located =
      (lib.parse (Text.encode text)).located.map (Located.move place) := by
  rw [Syntax.Tree.located, h.root]
  exact Syntax.family_move none _

/-- A node has the same text in both texts, up to carriage returns. -/
theorem exists_text (h : Alike lib text text' place) (htext : Returned text.toList text'.toList)
    (hl : l ∈ (lib.parse (Text.encode text)).located)
    (hplain : l.node.field ≠ none ∨ l.node.type ∉ ["comment", "\n"]) :
    ∃ s s', l.node.text (Text.encode text) = .ok s ∧
      (l.node.move place).text (Text.encode text') = .ok s' ∧ Returned s.toList s'.toList := by
  obtain ⟨hstart, hstop⟩ := h.meet l hl hplain
  obtain ⟨hstartBoundary, hstopBoundary⟩ := h.conforms.boundary l hl
  obtain ⟨s, hs⟩ :=
    Text.exists_piece hstartBoundary hstopBoundary (h.conforms.regular l hl).laid.le
  obtain ⟨s', hs', hreturned⟩ := hstart.exists_piece htext hstop hs
  refine ⟨s, s', hs.slice_eq, ?_, hreturned⟩
  rw [Node.text, Node.start_move, Node.stop_move]
  exact hs'.slice_eq

end Alike

/-! ## Names -/

/-- Names that are the same, or that no directive asks for. -/
def Counterpart (s s' : String) : Prop := s = s' ∨ '\n' ∈ s.toList ∧ '\n' ∈ s'.toList

namespace Counterpart

variable {s s' t t' : String}

/-- Texts that are the same up to carriage returns are counterparts. -/
private theorem of_returned (h : Returned s.toList s'.toList) : Counterpart s s' := by
  by_cases hs : '\n' ∈ s.toList
  · exact .inr ⟨hs, h.newline_mem_iff.2 hs⟩
  · exact .inl (String.toList_inj.1 (h.eq_of_not_mem hs)).symm

/-- Counterparts can be put behind each other. -/
private theorem append (h : Counterpart s s') (h' : Counterpart t t') :
    Counterpart (s ++ t) (s' ++ t') := by
  rcases h with rfl | ⟨hs, hs'⟩
  · rcases h' with rfl | ⟨ht, ht'⟩
    · exact .inl rfl
    · exact .inr ⟨by simp [ht], by simp [ht']⟩
  · exact .inr ⟨by simp [hs], by simp [hs']⟩

/-- A name on one line is the same as its counterpart. -/
private theorem eq_iff (h : Counterpart s s') (hname : '\n' ∉ name.toList) :
    s = name ↔ s' = name := by
  rcases h with rfl | ⟨hs, hs'⟩
  · exact Iff.rfl
  · exact ⟨fun h => absurd (h ▸ hs) hname, fun h => absurd (h ▸ hs') hname⟩

end Counterpart

/-- A newline is not left out at the ends of a text. -/
private theorem newline_mem_stripped {s : String} (h : '\n' ∈ s.toList) :
    '\n' ∈ (stripped "()* " s).toList := by
  -- A newline is no character that is stripped, from neither end.
  have hdrop : ∀ cs : List Char, '\n' ∈ cs →
      '\n' ∈ cs.dropWhile fun c => "()* ".toList.contains c := by
    intro cs hcs
    induction cs with
    | nil => cases hcs
    | cons c cs ih =>
      rw [List.dropWhile_cons]
      split
      · rename_i hc
        rcases List.mem_cons.1 hcs with rfl | hcs
        · exact absurd hc (by decide)
        · exact ih hcs
      · exact hcs
  rw [stripped, String.toList_ofList]
  exact List.mem_reverse.2 (hdrop _ (List.mem_reverse.2 (hdrop _ h)))

/-- Counterparts stay counterparts when a receiver is stripped. -/
private theorem Counterpart.stripped {s s' : String} (h : Returned s.toList s'.toList) :
    Counterpart (Go.stripped "()* " s) (Go.stripped "()* " s') := by
  rcases of_returned h with rfl | ⟨hs, hs'⟩
  · exact .inl rfl
  · exact .inr ⟨newline_mem_stripped hs, newline_mem_stripped hs'⟩

/-- The receiver of a method has the same name in both texts. -/
private theorem Alike.counterpart_receiverName (h : Alike lib text text' place)
    (htext : Returned text.toList text'.toList) {receiver : Node} {parent : Option Node}
    (hl : ⟨receiver, parent⟩ ∈ (lib.parse (Text.encode text)).located)
    (hplain : receiver.field ≠ none) {s s' : String}
    (hs : receiverName lib (Text.encode text) receiver = .ok s)
    (hs' : receiverName lib (Text.encode text') (receiver.move place) = .ok s') :
    Counterpart s s' := by
  unfold receiverName at hs hs'
  -- The search finds the same node, moved.
  rw [Syntax.findBelow_move] at hs'
  cases hfound : receiver.findBelow "type_identifier" lib.callDepth with
  | error e =>
    rw [hfound] at hs
    cases hs
  | ok found =>
    rw [hfound] at hs hs'
    cases found with
    | none =>
      -- There is no base type, and the receiver is a list of parameters, no comment.
      obtain ⟨t, t', ht, ht', hreturned⟩ := h.exists_text htext hl (.inl hplain)
      dsimp only at ht ht'
      simp only [bind, Except.bind, Except.map, Option.map, ht, ht', pure, Except.pure] at hs hs'
      cases hs
      cases hs'
      exact .stripped hreturned
    | some base =>
      obtain ⟨⟨above, hmem⟩, htype⟩ := Syntax.mem_of_findBelow parent hfound
      -- The base type is a name, and names are read alike.
      have hbase : base.type ∉ ["comment", "\n"] := by
        rw [htype]
        decide
      obtain ⟨t, t', ht, ht', hreturned⟩ :=
        h.exists_text htext (Node.family_subset hl hmem) (.inr hbase)
      have hs : base.text (Text.encode text) = .ok s := hs
      have hs' : (base.move place).text (Text.encode text') = .ok s' := hs'
      cases hs.symm.trans ht
      cases hs'.symm.trans ht'
      exact .of_returned hreturned

/-- A part of a node plays a part. -/
private theorem field_ne_none {field : String} {c : Node} (h : parts [field] n = [c]) :
    c.field ≠ none := by
  intro hnone
  have hmem := (List.mem_filter.1 (h ▸ List.mem_singleton_self c : c ∈ parts [field] n)).2
  rw [hnone] at hmem
  cases hmem

/-- A declaration has the same name in both texts. -/
private theorem Alike.counterpart_name (h : Alike lib text text' place)
    (htext : Returned text.toList text'.toList) (hl : l ∈ (lib.parse (Text.encode text)).located)
    {s s' : String} (hs : Named lib text l.node s) (hs' : Named lib text' (l.node.move place) s') :
    Counterpart s s' := by
  -- The parts of a declaration are nodes of the text.
  have hpart : ∀ {field c}, parts [field] l.node = [c] →
      ⟨c, some l.node⟩ ∈ (lib.parse (Text.encode text)).located := fun hc =>
    Syntax.mem_located_of_mem_children hl (List.mem_filter.1 (hc ▸ List.mem_singleton_self _)).1
  have hword : ∀ {name name' : Node} {t t' : String}, parts ["name"] l.node = [name] →
      parts ["name"] (l.node.move place) = [name'] → name.text (Text.encode text) = .ok t →
      name'.text (Text.encode text') = .ok t' → Counterpart t t' := by
    intro name name' t t' hname hname' ht ht'
    rw [parts_move, hname] at hname'
    obtain rfl := List.singleton_inj.1 hname'
    obtain ⟨u, u', hu, hu', hreturned⟩ :=
      h.exists_text htext (hpart hname) (.inl (field_ne_none hname))
    cases ht.symm.trans hu
    cases ht'.symm.trans hu'
    exact .of_returned hreturned
  -- The name, with the receiver in front of it if there is one.
  cases hs with
  | plain htype hname ht =>
    cases hs' with
    | plain _ hname' ht' => exact hword hname hname' ht ht'
    | method htype' => exact absurd (Node.type_move l.node ▸ htype') htype
  | method htype hreceiver hbase hname ht =>
    cases hs' with
    | plain htype' => exact absurd ((Node.type_move l.node).trans htype) htype'
    | method _ hreceiver' hbase' hname' ht' =>
      rw [parts_move, hreceiver] at hreceiver'
      obtain rfl := List.singleton_inj.1 hreceiver'
      have hreceivers := h.counterpart_receiverName htext (hpart hreceiver)
        (field_ne_none hreceiver) hbase hbase'
      exact (hreceivers.append (.inl rfl)).append (hword hname hname' ht ht')

/-! ## Entries -/

/-- Two entries are those of a node in two texts. -/
def Paired (lib : Library) (text text' : String) (place : Node → Nat × Nat) (d d' : Declaration) :
    Prop :=
  ∃ l ∈ (lib.parse (Text.encode text)).located.filter fun l => declares l.node,
    Declares lib text l d ∧ Declares lib text' (l.move place) d'

/-- The nodes of both texts have the same entries. -/
private theorem Alike.exists_entries (h : Alike lib text text' place)
    (herror : (lib.parse (Text.encode text)).hasError = false)
    (hentries : List.Forall₂ (Declares lib text)
      ((lib.parse (Text.encode text)).located.filter fun l => declares l.node) ds) :
    ∃ ds', declarations lib (Text.encode text') = .ok ds' ∧
      List.Forall₂ (Paired lib text text' place) ds ds' := by
  -- No receiver is too high, as its name was found in the other text.
  have hlost : ∀ l' ∈ (lib.parse (Text.encode text')).located, ¬ Lost lib text' l' := by
    intro l' hl' hlost
    have hmem := hl'
    rw [h.located_eq] at hmem
    obtain ⟨l, hl, rfl⟩ := List.mem_map.1 hmem
    have hdeclares : declares l.node = true := (declares_move l.node).symm.trans hlost.2.1
    obtain ⟨d, -, hd⟩ := exists_of_mem_left hentries (List.mem_filter.2 ⟨hl, hdeclares⟩)
    exact not_lost_of_move h.conforms' hl' rfl hd hlost
  obtain ⟨ds', hds', hentries'⟩ :=
    declarations_of_not_lost h.conforms' (h.hasError.trans herror) hlost
  -- The nodes that declare something are the same, moved.
  have hfilter : (lib.parse (Text.encode text')).located.filter (fun l => declares l.node) =
      ((lib.parse (Text.encode text)).located.filter fun l => declares l.node).map
        (Located.move place) := by
    rw [h.located_eq, List.filter_map]
    refine congrArg _ (List.filter_congr fun l _ => ?_)
    exact declares_move l.node
  rw [hfilter, List.forall₂_map_left_iff] at hentries'
  exact ⟨ds', hds', forall₂_of_common hentries hentries'⟩

/-- The entries of a node stand in the same places of both texts. -/
private theorem Alike.meet_entry (h : Alike lib text text' place)
    (hl : l ∈ (lib.parse (Text.encode text)).located) (hdeclares : declares l.node = true)
    (hd : Declares lib text l d) (hd' : Declares lib text' (l.move place) d') :
    Text.Meet text text' d.start d'.start ∧
      Text.Meet text text' d.opening.start d'.opening.start ∧
      Text.Meet text text' d.opening.stop d'.opening.stop ∧
      Text.Meet text text' d.closing.start d'.closing.start := by
  obtain ⟨-, hopening, hclosing⟩ := hd.moved hd' rfl
  -- Braces and declarations are no comments, so their places meet.
  obtain ⟨⟨b, hopeningMem, hclosingMem⟩, hopeningType, hclosingType, -⟩ := hd.placed h.conforms hl
  have hopeningMeet := h.meet _ hopeningMem (.inr (by rw [hopeningType]; decide))
  have hclosingMeet := h.meet _ hclosingMem (.inr (by rw [hclosingType]; decide))
  rw [hd.start, hd'.start, hopening, hclosing, Node.start_move, Node.stop_move, Node.start_move]
  refine ⟨?_, hopeningMeet.1, hopeningMeet.2, hclosingMeet.1⟩
  -- A type that stands for itself starts where its declaration does.
  rcases startOf_move place l with ⟨hstart, hstart'⟩ | ⟨htype, p, hp, hstart, hstart'⟩
  · rw [hstart, hstart']
    refine (h.meet l hl (.inr ?_)).1
    rcases type_of_declares hdeclares with ⟨htype | htype, -⟩ | htype <;> rw [htype] <;> decide
  · rw [hstart, hstart']
    obtain ⟨p', hp', hptype⟩ := ((h.conforms.regular l hl).spec htype).parent
    cases hp.symm.trans hp'
    obtain ⟨above, hmem⟩ := Syntax.mem_located_of_parent hl hp
    exact (h.meet _ hmem (.inr (by rw [hptype]; decide))).1

/-! ## Excerpts -/

/-- The body of the declaration with a kind and a name does not start with a newline. -/
def Inline (lib : Library) (source name : String) (kind : Kind) : Prop :=
  ∀ l d definition body, Wanted lib (terminated source) kind name l d →
    Sliced (terminated source) d definition body → body.toList.head? ≠ some '\n'

/-- Terminating texts keeps them the same up to carriage returns. -/
private theorem returned_terminated {source source' : String}
    (h : Returned source.toList source'.toList) :
    Returned (terminated source).toList (terminated source').toList := by
  unfold terminated
  rw [h.getLast?_eq]
  split
  · exact h
  · rw [String.toList_append, String.toList_append]
    exact h.append (.refl (by decide))

/-- What is shown of a body that does not start with a newline is the body. -/
private theorem Shown.eq_of_head {body shown : String} (h : Shown body shown)
    (hhead : body.toList.head? ≠ some '\n') : shown = body :=
  h.unique (.inr ⟨hhead, rfl⟩)

/-- A text that starts with no newline starts with none with carriage returns. -/
private theorem head_ne_of_returned {cs cs' : List Char} (h : Returned cs cs')
    (hhead : cs.head? ≠ some '\n') : cs'.head? ≠ some '\n' := by
  intro hhead'
  obtain ⟨rest, rfl⟩ := List.head?_eq_some_iff.1 hhead'
  obtain ⟨rest', rfl, -⟩ := h.exists_of_cons (by decide)
  exact hhead rfl

/-- A source that is read alike has the same excerpt, up to carriage returns, but a body that starts
    with a newline may be another one. -/
theorem extract_alike {source' : String} {s : Snippet} (hkind : kind = .type ∨ kind = .function)
    (h : Alike lib (terminated source) (terminated source') place)
    (hsource : Returned source.toList source'.toList) (hname : '\n' ∉ name.toList)
    (hs : extract lib source name kind = .ok s) :
    ∃ s', extract lib source' name kind = .ok s' ∧ s'.braced = s.braced ∧
      Returned s.definition.toList s'.definition.toList ∧
      (Inline lib source name kind → s.body.toList.head? ≠ some '\n' ∧
        Returned s.body.toList s'.body.toList) := by
  have htext := returned_terminated hsource
  obtain ⟨ds, hds, hentries, -⟩ := entries_of_extract hkind h.conforms hs
  cases hd : ds.find? fun d => d.kind = kind && d.name = name with
  | none =>
    rw [extract_of_not_find? hkind hds hd] at hs
    cases hs
  | some d =>
    have herror : (lib.parse (Text.encode (terminated source))).hasError = false := by
      refine Bool.eq_false_iff.2 fun herror => ?_
      rw [declarations_of_hasError herror] at hds
      cases hds
    obtain ⟨ds', hds', hpaired⟩ := h.exists_entries herror hentries
    -- The same entry is the first one with its kind and name in both texts.
    obtain ⟨d', hd', l, hl, hdl, hdl'⟩ := exists_find?_of_forall₂
      (q := fun d => d.kind = kind && d.name = name) hpaired (by
        rintro e e' ⟨l, hl, hel, hel'⟩
        have hkinds := (hel.moved hel' rfl).1
        have hnames := (h.counterpart_name htext (List.mem_filter.1 hl).1 hel.name hel'.name).eq_iff
          hname
        rw [hkinds, decide_eq_decide.2 hnames]) hd
    obtain ⟨hmem, hdeclares⟩ := List.mem_filter.1 hl
    -- The entries are at places that meet, so the texts between them are alike.
    obtain ⟨hstart, hopening, hopeningStop, hclosing⟩ := h.meet_entry hmem hdeclares hdl hdl'
    obtain ⟨definition, body, hsliced⟩ := exists_sliced h.conforms hmem hdl
    obtain ⟨definition', hdefinition', hdefinitions⟩ :=
      hstart.exists_piece htext hopening hsliced.definition
    obtain ⟨body', hbody', hbodies⟩ := hopeningStop.exists_piece htext hclosing hsliced.body
    have hlead : d'.lead = d.lead := by rw [hdl.lead, hdl'.lead, inGroup_move]
    have hleadFree : '\r' ∉ d.lead.toList := by
      rw [hdl.lead]
      cases inGroup l <;> decide
    have hshown := shown_of_startsWith body
    have hshown' := shown_of_startsWith body'
    rw [extract_of_find? hkind hds hd, d.snippet_eq hsliced.definition hsliced.body hshown] at hs
    cases hs
    refine ⟨_, (extract_of_find? hkind hds' hd').trans
      (d'.snippet_eq hdefinition' hbody' hshown' name),
      rfl, ?_, fun hinline => ?_⟩
    -- The definition, with the lead in front of it, and then the body.
    · rw [hlead, String.toList_append, String.toList_append]
      exact (Returned.refl hleadFree).append hdefinitions
    · obtain ⟨hdkind, hdname⟩ : d.kind = kind ∧ d.name = name := by
        simpa using List.find?_some hd
      have hhead := hinline l d definition body ⟨hmem, hdeclares, hdl, hdkind, hdname⟩ hsliced
      rw [hshown.eq_of_head hhead, hshown'.eq_of_head (head_ne_of_returned hbodies hhead)]
      exact ⟨hhead, hbodies⟩

/-! ### A function on several lines -/

/-- A function whose body starts behind the brace and goes on below. -/
def inlineText : String := "package p\n\nfunc F() \x7b a()\n\tb()\n\x7d\n"

/-- The place of a node of `inlineText` with carriage returns. -/
def inlinePlace (n : Node) : Nat × Nat :=
  (Text.meeting inlineText (withReturns inlineText) n.start,
    Text.meeting inlineText (withReturns inlineText) n.stop)

/-- The entry of the function. -/
def inlineEntry : Declaration :=
  { kind := .function, name := "F", start := 11, opening := .mk "\x7b" false none 20 21 [],
    closing := .mk "\x7d" false none 31 32 [] }

/-- The entry of the function with carriage returns. -/
def returnedInlineEntry : Declaration :=
  { kind := .function, name := "F", start := 13, opening := .mk "\x7b" false none 22 23 [],
    closing := .mk "\x7d" false none 35 36 [] }

/-- The function is read alike with carriage returns, and by itself like in both texts. -/
theorem alike_inlineText :
    Alike builtIn (terminated inlineText) (terminated (withReturns inlineText)) inlinePlace ∧
      Rereads builtIn (terminated inlineText) ∧
      Rereads builtIn (terminated (withReturns inlineText)) ∧
      Inline builtIn inlineText "F" .function := by
  have hterminated : terminated inlineText = inlineText := by decide +kernel
  have hterminated' : terminated (withReturns inlineText) = withReturns inlineText := by
    decide +kernel
  have hsingle : Single builtIn inlineText inlineEntry "func F() " " a()\n\tb()\n" := by
    decide +kernel
  have hsingle' : Single builtIn (withReturns inlineText) returnedInlineEntry
      "func F() " " a()\r\n\tb()\r\n" := by decide +kernel
  rw [hterminated']
  -- The library reads both texts alike, and nothing of the body is on another line.
  refine ⟨?_, hterminated.symm ▸ hsingle.rereads, hsingle'.rereads, ?_⟩
  · rw [hterminated]
    exact { conforms := by decide +kernel
            conforms' := by decide +kernel
            hasError := by decide +kernel
            root := by decide +kernel
            meet := by decide +kernel }
  · rintro l d definition body ⟨hmem, hdeclares, hd, -, -⟩ hsliced
    rw [hterminated] at hmem hd hsliced
    obtain ⟨-, -, -, rfl⟩ := hsingle.eq hmem hdeclares hd hsliced
    decide

end Transclude.Go
