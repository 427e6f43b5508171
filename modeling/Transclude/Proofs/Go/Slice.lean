import Transclude.Proofs.Go.Stars

/-!
# Excerpts are slices

An excerpt is cut out of the text at the start of its declaration and at its braces
(`exists_sliced`).  It is that of the first declaration with its kind and its name, and there is one
if there is such a declaration (`extract_sliced`).
-/

namespace Transclude.Go

open Syntax (Node Located)

variable {lib : Library} {text source name : String} {kind : Kind} {l l' : Located}
  {d d' : Declaration} {ds : List Declaration}

/-! ## Slices -/

/-- The text is cut at the start of a declaration and at its braces. -/
structure Sliced (text : String) (d : Declaration) (definition body : String) : Prop where
  definition : Text.Piece text d.start d.opening.start definition
  opening : Text.Piece text d.opening.start d.opening.stop "\x7b"
  body : Text.Piece text d.opening.stop d.closing.start body
  closing : Text.Piece text d.closing.start d.closing.stop "\x7d"

/-- A declaration starts between two characters. -/
private theorem boundary_start (h : Conforms lib text)
    (hl : l ∈ (lib.parse (Text.encode text)).located) : Text.Boundary text (startOf l) := by
  rcases startOf_eq_or l with heq | ⟨-, p, hp, -, heq⟩
  · rw [heq]
    exact (h.boundary l hl).1
  · obtain ⟨above, hmem⟩ := Syntax.mem_located_of_parent hl hp
    rw [heq]
    exact (h.boundary ⟨p, above⟩ hmem).1

/-- A brace is spelled like its type. -/
private theorem piece_of_brace {n : Node} {parent : Option Node} (h : Conforms lib text)
    (hn : ⟨n, parent⟩ ∈ (lib.parse (Text.encode text)).located)
    (htype : n.type ∈ ["\x7b", "\x7d"]) : Text.Piece text n.start n.stop n.type := by
  obtain ⟨hstart, hstop⟩ := h.boundary _ hn
  obtain ⟨piece, hpiece⟩ := Text.exists_piece hstart hstop (h.regular _ hn).laid.le
  have hspelled := h.spelled _ hn htype
  have hslice : n.text (Text.encode text) = .ok piece := hpiece.slice_eq
  rw [hslice] at hspelled
  exact Option.some.inj hspelled ▸ hpiece

/-- The text of a declaration is cut in four. -/
theorem exists_sliced (h : Conforms lib text) (hl : l ∈ (lib.parse (Text.encode text)).located)
    (hd : Declares lib text l d) : ∃ definition body, Sliced text d definition body := by
  obtain ⟨⟨b, hopening, hclosing⟩, hopeningType, hclosingType, hstart, hstop, -⟩ := hd.placed h hl
  obtain ⟨definition, hdefinition⟩ := Text.exists_piece (hd.start ▸ boundary_start h hl)
    (h.boundary _ hopening).1 hstart
  obtain ⟨body, hbody⟩ := Text.exists_piece (h.boundary _ hopening).2
    (h.boundary _ hclosing).1 hstop
  have hopeningPiece := piece_of_brace h hopening (by rw [hopeningType]; decide)
  have hclosingPiece := piece_of_brace h hclosing (by rw [hclosingType]; decide)
  rw [hopeningType] at hopeningPiece
  rw [hclosingType] at hclosingPiece
  exact ⟨definition, body, hdefinition, hopeningPiece, hbody, hclosingPiece⟩

/-- What is shown of a body: a newline at its start is left out. -/
def Shown (body shown : String) : Prop :=
  body = "\n" ++ shown ∨ body.toList.head? ≠ some '\n' ∧ shown = body

/-- What is shown of a body is it without a newline at the start. -/
theorem shown_of_startsWith (body : String) :
    Shown body (if body.startsWith "\n" then String.ofList (body.toList.drop 1) else body) := by
  by_cases hnewline : body.startsWith "\n" = true
  · obtain ⟨rest, hrest⟩ := String.startsWith_string_iff.1 hnewline
    rw [if_pos hnewline, ← hrest]
    refine .inl ?_
    rw [← String.toList_inj, String.toList_append, String.toList_ofList, ← hrest]
    exact congrArg _ (String.toList_ofList).symm
  · rw [if_neg hnewline]
    refine .inr ⟨fun hhead => hnewline (String.startsWith_string_iff.2 ?_), rfl⟩
    obtain ⟨rest, hrest⟩ := List.head?_eq_some_iff.1 hhead
    exact ⟨rest, hrest.symm⟩

/-- A body is shown in one way. -/
theorem Shown.unique {body shown shown' : String} (h : Shown body shown) (h' : Shown body shown') :
    shown = shown' := by
  rcases h with rfl | ⟨hhead, rfl⟩ <;> rcases h' with hbody | ⟨hhead', rfl⟩
  · exact (String.append_right_inj _).1 hbody
  · exact absurd (by rw [String.toList_append]; rfl) hhead'
  · exact absurd (by rw [hbody, String.toList_append]; rfl) hhead
  · rfl

/-- The excerpt of a declaration is made of two pieces of the text. -/
theorem Declaration.snippet_eq {definition body shown : String}
    (hdefinition : Text.Piece text d.start d.opening.start definition)
    (hbody : Text.Piece text d.opening.stop d.closing.start body) (hshown : Shown body shown)
    (name : String) :
    d.snippet (Text.encode text) name = .ok ⟨name, d.lead ++ definition, shown, true⟩ := by
  rw [hshown.unique (shown_of_startsWith body)]
  simp only [Declaration.snippet, Declaration.definition, Declaration.body, hdefinition.slice_eq,
    hbody.slice_eq, bind, Except.bind, pure, Except.pure]

/-! ## Excerpts -/

/-- A declaration of a kind has a name. -/
structure Wanted (lib : Library) (text : String) (kind : Kind) (name : String) (l : Located)
    (d : Declaration) : Prop where
  mem : l ∈ (lib.parse (Text.encode text)).located
  declares : declares l.node = true
  entry : Declares lib text l d
  kind : d.kind = kind
  name : d.name = name

/-- The first entry that fits is cut out. -/
theorem extract_of_find? (hkind : kind = .type ∨ kind = .function)
    (hds : declarations lib (Text.encode (terminated source)) = .ok ds)
    (hd : ds.find? (fun d => d.kind = kind && d.name = name) = some d) :
    extract lib source name kind = d.snippet (Text.encode (terminated source)) name := by
  rcases hkind with rfl | rfl <;> simp only [extract, hds, hd, bind, Except.bind]

/-- If no entry fits, there is no excerpt. -/
theorem extract_of_not_find? (hkind : kind = .type ∨ kind = .function)
    (hds : declarations lib (Text.encode (terminated source)) = .ok ds)
    (hd : ds.find? (fun d => d.kind = kind && d.name = name) = none) :
    extract lib source name kind = .error (.of (.noDeclaration kind name)) := by
  rcases hkind with rfl | rfl <;> simp only [extract, hds, hd, bind, Except.bind]

/-- What is wanted is listed. -/
private theorem mem_of_wanted (h : Wanted lib text kind name l d)
    (hds : List.Forall₂ (Declares lib text)
      ((lib.parse (Text.encode text)).located.filter fun l => declares l.node) ds) : d ∈ ds := by
  obtain ⟨d', hd', hentry⟩ := exists_of_mem_left hds (List.mem_filter.2 ⟨h.mem, h.declares⟩)
  exact h.entry.unique hentry ▸ hd'

/-- The text around the slices of a declaration. -/
theorem Sliced.exists_around {definition body : String} (h : Sliced text d definition body) :
    ∃ front back, text = front ++ definition ++ "\x7b" ++ body ++ "\x7d" ++ back ∧
      front.utf8ByteSize = d.start ∧ (front ++ definition).utf8ByteSize = d.opening.start ∧
      (front ++ definition ++ "\x7b" ++ body).utf8ByteSize = d.closing.start := by
  obtain ⟨front, back, htext, hfront, -⟩ :=
    ((h.definition.append h.opening).append h.body).append h.closing
  have hdefinition := h.definition.size_eq
  have hopening := h.opening.size_eq
  have hbody := h.body.size_eq
  refine ⟨front, back, by simp only [htext, String.append_assoc], hfront, ?_, ?_⟩
  · rw [String.utf8ByteSize_append, hfront, hdefinition]
  · rw [String.utf8ByteSize_append, String.utf8ByteSize_append, String.utf8ByteSize_append, hfront,
      hdefinition, hopening, hbody]

/-- The first entry with a kind and a name starts in front of all others. -/
private theorem start_le_of_find? {p : Declaration → Bool} (hds : ds.Pairwise Apart)
    (hd : ds.find? p = some d) (hmem : d' ∈ ds) (hd' : p d' = true) : d.start ≤ d'.start := by
  obtain ⟨hp, before, after, rfl, hbefore⟩ := List.find?_eq_some_iff_append.1 hd
  rcases List.mem_append.1 hmem with hmem | hmem
  · have hnot := hbefore d' hmem
    rw [hd'] at hnot
    cases hnot
  · rcases List.mem_cons.1 hmem with rfl | hmem
    · exact Nat.le_refl _
    · have hafter := (List.pairwise_append.1 hds).2.1
      exact Nat.le_of_lt ((List.pairwise_cons.1 hafter).1 d' hmem).1

/-- Of the entries of a text the first one that is wanted is cut out. -/
theorem extract_of_entries (hkind : kind = .type ∨ kind = .function)
    (h : Conforms lib (terminated source))
    (hds : declarations lib (Text.encode (terminated source)) = .ok ds)
    (hentries : List.Forall₂ (Declares lib (terminated source))
      ((lib.parse (Text.encode (terminated source))).located.filter fun l => declares l.node) ds)
    (hapart : ds.Pairwise Apart) :
    ((∀ l d, ¬ Wanted lib (terminated source) kind name l d) ∧
      extract lib source name kind = .error (.of (.noDeclaration kind name))) ∨
    ∃ l d, Wanted lib (terminated source) kind name l d ∧
      (∀ l' d', Wanted lib (terminated source) kind name l' d' → d.start ≤ d'.start) ∧
      ∃ definition body shown, Sliced (terminated source) d definition body ∧ Shown body shown ∧
        extract lib source name kind = .ok ⟨name, d.lead ++ definition, shown, true⟩ := by
  -- The entries are searched in their order, and that is the order of their starts.
  cases hd : ds.find? fun d => d.kind = kind && d.name = name with
  | none =>
    refine .inl ⟨fun l d hw => ?_, extract_of_not_find? hkind hds hd⟩
    have hnot := List.find?_eq_none.1 hd d (mem_of_wanted hw hentries)
    simp [hw.kind, hw.name] at hnot
  | some d =>
    obtain ⟨l, hl, hentry⟩ := exists_of_mem_right hentries (List.mem_of_find?_eq_some hd)
    obtain ⟨hmem, hdeclares⟩ := List.mem_filter.1 hl
    obtain ⟨hdkind, hdname⟩ : d.kind = kind ∧ d.name = name := by
      simpa using List.find?_some hd
    obtain ⟨definition, body, hsliced⟩ := exists_sliced h hmem hentry
    have hshown := shown_of_startsWith body
    refine .inr ⟨l, d, ⟨hmem, hdeclares, hentry, hdkind, hdname⟩, fun l' d' hw => ?_, definition,
      body, _, hsliced, hshown, ?_⟩
    · exact start_le_of_find? hapart hd (mem_of_wanted hw hentries) (by simp [hw.kind, hw.name])
    · rw [extract_of_find? hkind hds hd, d.snippet_eq hsliced.definition hsliced.body hshown]

/-- A text that has an excerpt is Go, and its entries are known. -/
theorem entries_of_extract (hkind : kind = .type ∨ kind = .function)
    (h : Conforms lib (terminated source)) (hs : extract lib source name kind = .ok s) :
    ∃ ds, declarations lib (Text.encode (terminated source)) = .ok ds ∧
      List.Forall₂ (Declares lib (terminated source))
        ((lib.parse (Text.encode (terminated source))).located.filter fun l => declares l.node) ds ∧
      ds.Pairwise Apart := by
  -- An excerpt is cut out only if there is a list of entries.
  obtain ⟨ds, hds⟩ : ∃ ds, declarations lib (Text.encode (terminated source)) = .ok ds := by
    cases hds : declarations lib (Text.encode (terminated source)) with
    | ok ds => exact ⟨ds, rfl⟩
    | error e =>
      rcases hkind with rfl | rfl <;> simp only [extract, hds, bind, Except.bind] at hs <;> cases hs
  cases herror : (lib.parse (Text.encode (terminated source))).hasError with
  | true =>
    rw [declarations_of_hasError herror] at hds
    cases hds
  | false =>
    -- There is a list, so no entry is lost.
    rcases declarations_cases_of_conforms h herror with hentries | ⟨⟨e, he⟩, -⟩
    · exact hentries
    · rw [he] at hds
      cases hds

/-- An excerpt is cut out of the text of a declaration with its kind and its name, the first one
    that there is.  A text that is not Go has none. -/
theorem extract_sliced (lib : Library) (source name : String) {kind : Kind}
    (hkind : kind = .type ∨ kind = .function) :
    ((lib.parse (Text.encode (terminated source))).hasError = true →
      extract lib source name kind = .error (.of .invalidGo)) ∧
    ((lib.parse (Text.encode (terminated source))).hasError = false →
      Conforms lib (terminated source) → Low lib (terminated source) →
      ((∀ l d, ¬ Wanted lib (terminated source) kind name l d) ∧
        extract lib source name kind = .error (.of (.noDeclaration kind name))) ∨
      ∃ l d, Wanted lib (terminated source) kind name l d ∧
        (∀ l' d', Wanted lib (terminated source) kind name l' d' → d.start ≤ d'.start) ∧
        ∃ front definition body back shown,
          terminated source = front ++ definition ++ "\x7b" ++ body ++ "\x7d" ++ back ∧
          front.utf8ByteSize = d.start ∧
          (front ++ definition).utf8ByteSize = d.opening.start ∧
          (front ++ definition ++ "\x7b" ++ body).utf8ByteSize = d.closing.start ∧
          Shown body shown ∧
          extract lib source name kind = .ok ⟨name, d.lead ++ definition, shown, true⟩) := by
  refine ⟨fun herror => ?_, fun herror h hlow => ?_⟩
  -- A text with errors has no entries to look for.
  · have hds := declarations_of_hasError herror
    rcases hkind with rfl | rfl <;> simp only [extract, hds, bind, Except.bind]
  · obtain ⟨ds, hds, hentries, hapart⟩ := declarations_listed h hlow herror
    rcases extract_of_entries hkind h hds (hentries.imp fun _ _ => And.left) hapart with
      hnone | ⟨l, d, hw, hfirst, definition, body, shown, hsliced, hshown, hok⟩
    · exact .inl hnone
    · obtain ⟨front, back, htext, hstart, hopening, hclosing⟩ := hsliced.exists_around
      exact .inr ⟨l, d, hw, hfirst, front, definition, body, back, shown, htext, hstart, hopening,
        hclosing, hshown, hok⟩

/-- A generic type in a group, with braces in a comment and in a constraint, and an empty line at
    the start of its body. -/
def groupText : String :=
  "package p\n\ntype (\n\t// not \x7b\n\tV[P interface\x7b M() \x7d] struct \x7b\n\n" ++
    "\t\tX, Y P\n\t\x7d\n)\n"

/-- The group is read by the grammar. -/
theorem conforms_groupText : Conforms builtIn groupText := by
  decide +kernel

/-- The group ends in a newline. -/
theorem terminated_groupText : terminated groupText = groupText := by
  decide +kernel

/-- The struct of the group. -/
def groupSnippet : Snippet :=
  ⟨"V", "type V[P interface\x7b M() \x7d] struct ", "\n\t\tX, Y P\n\t", true⟩

/-- The struct is cut out of the group. -/
theorem extract_groupText : extract builtIn groupText "V" .type = .ok groupSnippet :=
  eq_ok_of_toOption (by decide +kernel)

/-- The excerpt is the slice of the group at the struct. -/
theorem extract_sliced_groupText :
    (builtIn.parse (Text.encode (terminated groupText))).hasError = false ∧
      Conforms builtIn (terminated groupText) ∧ Low builtIn (terminated groupText) ∧
      ∃ l d, Wanted builtIn (terminated groupText) .type "V" l d ∧
        ∃ front definition body back shown,
          terminated groupText = front ++ definition ++ "\x7b" ++ body ++ "\x7d" ++ back ∧
          front.utf8ByteSize = d.start ∧ Shown body shown ∧
          d.lead ++ definition = "type V[P interface\x7b M() \x7d] struct " ∧
          shown = "\n\t\tX, Y P\n\t" ∧
          extract builtIn groupText "V" .type = .ok ⟨"V", d.lead ++ definition, shown, true⟩ := by
  have h : Conforms builtIn (terminated groupText) := terminated_groupText.symm ▸ conforms_groupText
  have hlow : Low builtIn (terminated groupText) := by decide +kernel
  have herror : (builtIn.parse (Text.encode (terminated groupText))).hasError = false := by
    decide +kernel
  rcases (extract_sliced builtIn groupText "V" (.inl rfl)).2 herror h hlow with ⟨-, hnone⟩ |
    ⟨l, d, hw, -, front, definition, body, back, shown, htext, hstart, -, -, hshown, hok⟩
  · rw [extract_groupText] at hnone
    cases hnone
  -- The general theorem is taken at the struct, and what is cut out is known.
  · have hsnippet := hok.symm.trans extract_groupText
    exact ⟨herror, h, hlow, l, d, hw, front, definition, body, back, shown, htext, hstart, hshown,
      congrArg Snippet.definition (Except.ok.inj hsnippet),
      congrArg Snippet.body (Except.ok.inj hsnippet), hok⟩

/-- The text with the stars ends in a newline. -/
private theorem terminated_starredText (stars : Nat) :
    terminated (starredText stars) = starredText stars := by
  have hback : ("() \x7b\n\x7d\n" : String).toList.getLast? = some '\n' := by decide
  have hlast : (starredText stars).toList.getLast? = some '\n' := by
    unfold starredText
    rw [String.toList_append, List.getLast?_append, hback, Option.some_or]
  exact if_pos hlast

/-- A method with a body is not found, since its receiver has too many stars. -/
theorem extract_starredText :
    ((starredLibrary 1500).parse (Text.encode (terminated (starredText 1500)))).hasError = false ∧
      (∃ l ∈ ((starredLibrary 1500).parse (Text.encode (terminated (starredText 1500)))).located,
        l.node = starredMethod 1500 ∧ declares l.node = true) ∧
      extract (starredLibrary 1500) (starredText 1500) "T.M" .function =
        .error (.fault Fault.tooDeep) := by
  have hmem : starredMethod 1500 ∈ (starredTree 1500).root.children :=
    List.mem_cons_of_mem _ (List.mem_cons_of_mem _ List.mem_cons_self)
  refine ⟨rfl, ⟨_, Syntax.mem_family_of_mem_children hmem (Node.self_mem_family _ _), rfl, rfl⟩, ?_⟩
  rw [extract, terminated_starredText, declarations_starred_of_lt (by decide)]
  rfl

end Transclude.Go
