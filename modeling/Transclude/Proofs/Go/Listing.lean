import Mathlib.Data.List.Perm.Basic
import Transclude.Go.BuiltIn
import Transclude.Proofs.Go.Receiver
import Transclude.Proofs.List

/-!
# The declarations of a text

The declarations of a text are those that the nodes of its tree declare, one each, in the order of
the nodes (`declarations_listed`).  They start one behind the other, and their spans lie inside of
each other or apart.  There is one way to fail: the receiver of a method is too high.
-/

namespace Transclude.Go

open Syntax (Node Located Match)

variable {lib : Library} {text : String} {l : Located} {ls : List Located} {ms : List Match}
  {ds : List Declaration}

/-! ## What is found in a tree -/

/-- The receiver of a method with a body has no name, since it is too high. -/
def Lost (lib : Library) (text : String) (l : Located) : Prop :=
  l.node.type = "method_declaration" ∧ declares l.node = true ∧
    ∃ receiver e, parts ["receiver"] l.node = [receiver] ∧
      receiverName lib (Text.encode text) receiver = .error e

/-- What is found in some nodes is found at those that declare something, once at each. -/
private theorem forall₂_captured
    (h : ∀ l ∈ ls, Regular l ∧ ∀ c ∈ l.node.children, Regular ⟨c, some l.node⟩) :
    List.Forall₂ Captured (ls.filter fun l => declares l.node) (ls.flatMap matchesAt) := by
  induction ls with
  | nil => exact .nil
  | cons l ls ih =>
    have ih := ih fun l' hl' => h l' (List.mem_cons_of_mem l hl')
    obtain ⟨hregular, hbelow⟩ := h l List.mem_cons_self
    rw [List.flatMap_cons]
    rcases matchesAt_cases hregular hbelow with ⟨hnone, hmatches⟩ | ⟨hdeclares, m, hmatches, hm⟩
    · rw [List.filter_cons_of_neg (by rw [hnone]; decide), hmatches]
      exact ih
    · rw [List.filter_cons, if_pos hdeclares, hmatches]
      exact .cons hm ih

/-- What is found at some nodes is made their entries of, unless a receiver is too high. -/
private theorem forall₂_entries (h : Conforms lib text)
    (hls : ∀ l ∈ ls, l ∈ (lib.parse (Text.encode text)).located ∧ declares l.node = true)
    (hms : List.Forall₂ Captured ls ms) :
    (∃ ds, List.Forall₂ (fun m d => ofMatch lib (Text.encode text) m = .ok (some d)) ms ds ∧
        List.Forall₂ (Declares lib text) ls ds) ∨
      ∃ l ∈ ls, Lost lib text l ∧ ∃ m ∈ ms, ∃ e, ofMatch lib (Text.encode text) m = .error e := by
  induction hms with
  | nil => exact .inl ⟨[], .nil, .nil⟩
  | @cons l m ls ms hm hrest ih =>
    obtain ⟨hl, hdeclares⟩ := hls l List.mem_cons_self
    -- The node has an entry, or its receiver is too high and no list is made at all.
    rcases ofMatch_cases h hl hm with ⟨d, hd, hentry⟩ | ⟨receiver, e, htype, hreceiver, hbase, he⟩
    · rcases ih fun l' hl' => hls l' (List.mem_cons_of_mem l hl') with
        ⟨ds, hds, hentries⟩ | ⟨l', hl', hlost, m', hm', he⟩
      · exact .inl ⟨d :: ds, .cons hd hds, .cons hentry hentries⟩
      · exact .inr ⟨l', List.mem_cons_of_mem l hl', hlost, m', List.mem_cons_of_mem m hm', he⟩
    · exact .inr ⟨l, List.mem_cons_self, ⟨htype, hdeclares, receiver, e, hreceiver, hbase⟩, m,
        List.mem_cons_self, e, he⟩

/-- Findings that all have entries make up the list of these. -/
private theorem ofMatches_eq_ok
    (h : List.Forall₂ (fun m d => ofMatch lib (Text.encode text) m = .ok (some d)) ms ds) :
    ofMatches lib (Text.encode text) ms = .ok ds := by
  induction h with
  | nil => rfl
  | cons hm hrest ih =>
    rw [ofMatches, hm, ih]
    rfl

/-- One finding without an entry is enough to have no list. -/
private theorem exists_error_of_mem {m : Match} {e : Failure} (hm : m ∈ ms)
    (he : ofMatch lib (Text.encode text) m = .error e) :
    ∃ e', ofMatches lib (Text.encode text) ms = .error e' := by
  induction ms with
  | nil => cases hm
  | cons m' ms ih =>
    rw [ofMatches]
    cases hm' : ofMatch lib (Text.encode text) m' with
    | error e' => exact ⟨e', rfl⟩
    | ok o =>
      -- The finding that goes wrong is this one or a later one.
      rcases List.mem_cons.1 hm with rfl | hm
      · rw [he] at hm'
        cases hm'
      · obtain ⟨e', he'⟩ := ih hm
        rw [he']
        exact ⟨e', rfl⟩

/-! ## In order -/

/-- A span is in front of another one, or the other one is inside of it. -/
def Apart (d e : Declaration) : Prop :=
  d.start < e.start ∧ (d.closing.stop ≤ e.start ∨ e.closing.stop ≤ d.closing.stop)

/-- Entries are in the order of their nodes, and apart or inside of each other. -/
private theorem pairwise_apart (h : Conforms lib text)
    (hds : List.Forall₂ (Declares lib text)
      ((lib.parse (Text.encode text)).located.filter fun l => declares l.node) ds) :
    ds.Pairwise Apart := by
  have hplaced : List.Forall₂
      (fun l d => d.start = startOf l ∧ d.closing.stop = l.node.stop)
      ((lib.parse (Text.encode text)).located.filter fun l => declares l.node) ds := by
    have hmem := (List.forall₂_and_left _ ds).2 ⟨fun l hl => (List.mem_filter.1 hl).1, hds⟩
    exact hmem.imp fun l d hd => ⟨hd.2.start, (hd.2.placed h hd.1).2.2.2.2.2⟩
  refine forall₂_pairwise hplaced (pairwise_before h.regular) ?_
  rintro l l' d e ⟨hstart, hstop⟩ ⟨hstart', hstop'⟩ hbefore
  rw [Apart, hstart, hstop, hstart', hstop']
  exact hbefore

/-- The declarations of a text are those of the nodes of its tree, unless a receiver is too high. -/
theorem declarations_cases_of_conforms (h : Conforms lib text)
    (herror : (lib.parse (Text.encode text)).hasError = false) :
    (∃ ds, declarations lib (Text.encode text) = .ok ds ∧
        List.Forall₂ (Declares lib text)
          ((lib.parse (Text.encode text)).located.filter fun l => declares l.node) ds ∧
        ds.Pairwise Apart) ∨
      (∃ e, declarations lib (Text.encode text) = .error e) ∧
        ∃ l ∈ (lib.parse (Text.encode text)).located, Lost lib text l := by
  have hregular : ∀ l ∈ (lib.parse (Text.encode text)).located,
      Regular l ∧ ∀ c ∈ l.node.children, Regular ⟨c, some l.node⟩ := fun l hl =>
    ⟨h.regular l hl, fun c hc => h.regular _ (Syntax.mem_located_of_mem_children hl hc)⟩
  rw [declarations_of_not_hasError herror]
  have hperm := h.found
  rw [matchesIn_eq] at hperm
  -- In the order of the nodes, all findings have entries, or one entry is lost.
  rcases forall₂_entries h (fun l hl => List.mem_filter.1 hl) (forall₂_captured hregular) with
    ⟨ds, hds, hentries⟩ | ⟨l, hl, hlost, m, hm, e, he⟩
  · -- The library finds the same in another order, and sorting undoes that.
    obtain ⟨found, hfound, hfoundPerm⟩ := List.perm_comp_forall₂ hperm hds
    have hapart := pairwise_apart h hentries
    refine .inl ⟨ds, ?_, hentries, hapart⟩
    rw [ofMatches_eq_ok hfound]
    exact congrArg Except.ok (mergeSort_eq hfoundPerm (hapart.imp And.left))
  -- The library finds the one that goes wrong somewhere, too.
  · obtain ⟨e', he'⟩ := exists_error_of_mem (hperm.mem_iff.2 hm) he
    rw [he']
    exact .inr ⟨⟨e', rfl⟩, l, (List.mem_filter.1 hl).1, hlost⟩

/-- If no receiver is too high, the nodes of a text that is Go have one entry each. -/
theorem declarations_of_not_lost (h : Conforms lib text)
    (herror : (lib.parse (Text.encode text)).hasError = false)
    (hlost : ∀ l ∈ (lib.parse (Text.encode text)).located, ¬ Lost lib text l) :
    ∃ ds, declarations lib (Text.encode text) = .ok ds ∧ List.Forall₂ (Declares lib text)
      ((lib.parse (Text.encode text)).located.filter fun l => declares l.node) ds := by
  rcases declarations_cases_of_conforms h herror with ⟨ds, hds, hentries, -⟩ | ⟨-, l, hl, hl'⟩
  · exact ⟨ds, hds, hentries⟩
  · exact absurd hl' (hlost l hl)

/-! ## All declarations -/

/-- No receiver of a method is as high as calls may be deep. -/
def Low (lib : Library) (text : String) : Prop :=
  ∀ l ∈ (lib.parse (Text.encode text)).located, l.node.type = "method_declaration" →
    ∀ receiver ∈ parts ["receiver"] l.node, receiver.height < lib.callDepth

instance (lib : Library) (text : String) : Decidable (Low lib text) :=
  inferInstanceAs (Decidable (∀ l ∈ _, _ → ∀ receiver ∈ _, _))

/-- A method goes by the base type of its receiver and by its own name. -/
def ByReceiver (text : String) (l : Located) (d : Declaration) : Prop :=
  ∀ receiver base name, l.node.type = "method_declaration" →
    parts ["receiver"] l.node = [receiver] → Denotes base receiver →
      parts ["name"] l.node = [name] →
        ∃ s s', base.text (Text.encode text) = .ok s ∧ name.text (Text.encode text) = .ok s' ∧
          d.name = s ++ "." ++ s'

/-- No entry is lost if no receiver is too high. -/
private theorem not_lost (h : Conforms lib text) (hlow : Low lib text)
    (hl : l ∈ (lib.parse (Text.encode text)).located) : ¬ Lost lib text l := by
  rintro ⟨htype, -, receiver, e, hreceiver, he⟩
  have hmem : receiver ∈ parts ["receiver"] l.node := hreceiver ▸ List.mem_cons_self
  have hchild : receiver ∈ l.node.children := (List.mem_filter.1 hmem).1
  obtain ⟨s, hs⟩ := exists_receiverName h (Syntax.mem_located_of_mem_children hl hchild)
    (hlow l hl htype receiver hmem)
  rw [hs] at he
  cases he

/-- The receiver of a method is a list of parameters. -/
private theorem type_of_receiver {receiver : Node} (h : Regular l)
    (htype : l.node.type = "method_declaration")
    (hreceiver : parts ["receiver"] l.node = [receiver]) :
    receiver.type = "parameter_list" := by
  -- The receiver is one of the parts of the method.
  have hmem : receiver ∈ (parts functionFields l.node).filter fun c =>
      c.field.any ["receiver"].contains := by
    rw [← parts_eq_filter functionFields (by decide), hreceiver]
    exact List.mem_cons_self
  obtain ⟨hmem, hfield⟩ := List.mem_filter.1 hmem
  have hlabel : label receiver ∈ (parts functionFields l.node).map label := List.mem_map_of_mem hmem
  have hlabels := (h.method htype).parts
  have hin : label receiver ∈ [playing "receiver" "parameter_list",
      playing "name" "field_identifier", playing "body" "block"] := by
    -- Whether or not there is a body, the parts are known.
    rcases List.mem_pair.1 hlabels with hlabels | hlabels <;> rw [hlabels] at hlabel
    · exact List.mem_append_left [playing "body" "block"] hlabel
    · exact hlabel
  simp only [List.mem_cons, List.not_mem_nil, or_false, label, playing, Prod.mk.injEq] at hin
  -- Only one of the parts has the field of a receiver.
  rcases hin with ⟨-, -, htype⟩ | ⟨hname, -⟩ | ⟨hbody, -⟩
  · exact htype
  · rw [hname] at hfield
    exact absurd hfield (by decide)
  · rw [hbody] at hfield
    exact absurd hfield (by decide)

/-- The entry of a method goes by its receiver. -/
private theorem byReceiver {d : Declaration} (h : Conforms lib text)
    (hl : l ∈ (lib.parse (Text.encode text)).located) (hd : Declares lib text l d) :
    ByReceiver text l d := by
  intro receiver base name htype hreceiver hbase hname
  have hnamed := hd.name
  generalize d.name = called at hnamed ⊢
  cases hnamed with
  | plain hne => exact absurd htype hne
  | @method receiver' name' s s' _ hreceiver' hs hname' hs' =>
    cases hreceiver'.symm.trans hreceiver
    cases hname'.symm.trans hname
    have hlist := type_of_receiver (h.regular l hl) htype hreceiver
    exact ⟨s, s', receiverName_eq hbase hlist hs, hs', rfl⟩

/-- The declarations of a text are those of the nodes of its tree, one for each, if no receiver is
    too high.  Methods go by the base types of their receivers. -/
theorem declarations_listed (h : Conforms lib text) (hlow : Low lib text)
    (herror : (lib.parse (Text.encode text)).hasError = false) :
    ∃ ds, declarations lib (Text.encode text) = .ok ds ∧
      List.Forall₂ (fun l d => Declares lib text l d ∧ ByReceiver text l d)
        ((lib.parse (Text.encode text)).located.filter fun l => declares l.node) ds ∧
      ds.Pairwise Apart := by
  rcases declarations_cases_of_conforms h herror with
    ⟨ds, hds, hentries, hapart⟩ | ⟨-, l, hl, hlost⟩
  · refine ⟨ds, hds, ?_, hapart⟩
    have hmem := (List.forall₂_and_left _ ds).2 ⟨fun l hl => (List.mem_filter.1 hl).1, hentries⟩
    exact hmem.imp fun l d hd => ⟨hd.2, byReceiver h hd.1 hd.2⟩
  · exact absurd hlost (not_lost h hlow hl)

/-- The built-in library finds what fits a query. -/
theorem findings_builtIn (text : String) :
    (builtIn.findings declarationQuery (builtIn.parse (Text.encode text))).Perm
      (declarationQuery.matchesIn (builtIn.parse (Text.encode text))) := by
  generalize builtIn.parse (Text.encode text) = tree
  exact .refl _

/-- It can be computed that the built-in library reads a text by the grammar. -/
theorem conforms_builtIn (h : ∀ l ∈ (builtIn.parse (Text.encode text)).located, Regular l ∧
      (Text.Boundary text l.node.start ∧ Text.Boundary text l.node.stop) ∧
      (l.node.type ∈ ["\x7b", "\x7d"] →
        (l.node.text (Text.encode text)).toOption = some l.node.type)) : Conforms builtIn text where
  regular l hl := (h l hl).1
  boundary l hl := (h l hl).2.1
  spelled l hl := (h l hl).2.2
  found := findings_builtIn text

instance (text : String) : Decidable (Conforms builtIn text) :=
  decidable_of_iff _
    ⟨conforms_builtIn, fun h l hl => ⟨h.regular l hl, h.boundary l hl, h.spelled l hl⟩⟩

/-- A method of a pointer with arguments, a type inside of it and a generic type in a group. -/
def nestedText : String :=
  "package p\n\nfunc (r *T[P]) M() \x7b\n\ttype U struct\x7b\x7d\n\x7d\n\n" ++
    "type (\n\tV[P any] interface \x7b\n\t\t~int\n\t\x7d\n)\n"

/-- The sample is read by the grammar. -/
private theorem conforms_nestedText : Conforms builtIn nestedText := by
  decide +kernel

/-- A method, the type inside of it and the type in the group are listed. -/
theorem declarations_listed_nestedText :
    Conforms builtIn nestedText ∧ Low builtIn nestedText ∧
      (builtIn.parse (Text.encode nestedText)).hasError = false ∧
      ∃ ds, declarations builtIn (Text.encode nestedText) = .ok ds ∧ ds.length = 3 ∧
        List.Forall₂ (fun l d => Declares builtIn nestedText l d ∧ ByReceiver nestedText l d)
          ((builtIn.parse (Text.encode nestedText)).located.filter fun l => declares l.node) ds ∧
        ds.Pairwise Apart := by
  have hlow : Low builtIn nestedText := by decide +kernel
  have herror : (builtIn.parse (Text.encode nestedText)).hasError = false := by decide +kernel
  have hlength : ((builtIn.parse (Text.encode nestedText)).located.filter fun l =>
      declares l.node).length = 3 := by decide +kernel
  obtain ⟨ds, hds, hentries, hapart⟩ := declarations_listed conforms_nestedText hlow herror
  exact ⟨conforms_nestedText, hlow, herror, ds, hds, hentries.length_eq ▸ hlength, hentries, hapart⟩

end Transclude.Go
