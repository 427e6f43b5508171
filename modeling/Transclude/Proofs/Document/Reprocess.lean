import Transclude.Proofs.Document.Splice
import Transclude.Proofs.Resolver

/-!
# Rendering a rendered document

A rendered document renders to itself (`render_render`): its directive lines are
followed by blocks that end where they were written to end, and everything that
the directives ask for is stored.

The second pass restores what is stored and does nothing else.  It makes no
difference to it what the fetchers and the extractors would give, so the result
is stated for every processor that restores excerpts in the same way.
-/

namespace Transclude.Processor

open Transclude.Document

variable {σ : Type} {p q : Processor σ} {d : Directive}

/-! ## What a directive shows -/

/-- An excerpt is got by storing it under its key and restoring it from there. -/
private theorem snippet_eq_ok_iff {snippet : Snippet} {s t : Session σ} :
    p.snippet d s = .ok snippet t ↔
      ∃ extractor data text, p.extractors d.language = some extractor ∧
        d.language.supports d.kind = true ∧
        Resolver.derive d.snippetUri (p.excerpt extractor d) s = .ok data t ∧
        decode data = .ok text ∧ extractor.restore d.name d.kind text = .ok snippet := by
  unfold Processor.snippet
  -- Without an extractor or without the kind there is no excerpt at all.
  cases hextractor : p.extractors d.language with
  | none =>
    constructor
    · intro h; cases h
    · rintro ⟨_, _, _, h, -⟩; cases h
  | some extractor =>
    cases hsupports : d.language.supports d.kind with
    | false =>
      constructor
      · intro h; cases h
      · rintro ⟨_, _, _, -, h, -⟩; cases h
    | true =>
      simp only [if_true, Action.bind_eq_ok_iff, Action.ofExcept_eq_ok_iff]
      constructor
      · rintro ⟨data, _, hdata, text, _, ⟨htext, rfl⟩, hrestore, rfl⟩
        exact ⟨extractor, data, text, rfl, trivial, hdata, htext, hrestore⟩
      · rintro ⟨_, data, text, hsome, -, hdata, htext, hrestore⟩
        cases hsome
        exact ⟨data, t, hdata, text, t, ⟨htext, rfl⟩, hrestore, rfl⟩

/-- What is shown is a window of the excerpt. -/
private theorem code_eq_ok_iff {code : String} {s t : Session σ} :
    p.code d s = .ok code t ↔
      ∃ snippet, p.snippet d s = .ok snippet t ∧
        snippet.window d.start d.stop d.language.ellipsis = .ok code := by
  simp only [Processor.code, Action.bind_eq_ok_iff, Action.ofExcept_eq_ok_iff]
  constructor
  · rintro ⟨snippet, _, hsnippet, hwindow, rfl⟩
    exact ⟨snippet, hsnippet, hwindow⟩
  · rintro ⟨snippet, hsnippet, hwindow⟩
    exact ⟨snippet, t, hsnippet, hwindow, rfl⟩

/-- Cutting out an excerpt only adds to what is stored. -/
private theorem growing_excerpt (extractor : Extractor) : Growing (p.excerpt extractor d) :=
  (Resolver.growing_resolve _ _).bind fun _ => (Growing.ofExcept _).bind fun _ =>
    (Growing.ofExcept _).bind fun _ => .pure _

/-- Getting an excerpt only adds to what is stored. -/
private theorem growing_snippet : Growing (p.snippet d) := by
  unfold Processor.snippet
  split
  · exact .throw _
  · split
    · exact (Resolver.growing_derive (growing_excerpt _) _).bind fun _ =>
        (Growing.ofExcept _).bind fun _ => .ofExcept _
    · exact .throw _

/-- Getting what is shown only adds to what is stored. -/
private theorem growing_code : Growing (p.code d) :=
  growing_snippet.bind fun _ => .ofExcept _

/-- Filling a document only adds to what is stored. -/
private theorem growing_fill (items : List Item) : Growing (p.fill items) := by
  induction items with
  | nil => exact .pure _
  | cons item items ih =>
    cases item with
    | text line => exact ih.bind fun _ => .pure _
    | directive line old =>
      exact (Growing.ofExcept _).bind fun _ => growing_code.bind fun _ =>
        (Growing.ofExcept _).bind fun _ => ih.bind fun _ => .pure _

/-! ## The second pass -/

/-- `q` restores excerpts as `p` does; what it fetches and extracts is left open. -/
def RestoresAs (q p : Processor σ) : Prop :=
  ∀ l, (q.extractors l).map Extractor.restore = (p.extractors l).map Extractor.restore

/-- Every processor restores as it does itself. -/
private theorem RestoresAs.refl (p : Processor σ) : p.RestoresAs p := fun _ => rfl

/-- What a directive shows once, it shows for the rest of the session, and at no cost. -/
theorem code_again {code : String} {s t u : Session σ} (hs : s.Readable)
    (h : p.code d s = .ok code t) (hu : t.Grows u) (hq : q.RestoresAs p) :
    q.code d u = .ok code u := by
  obtain ⟨snippet, hsnippet, hwindow⟩ := code_eq_ok_iff.1 h
  obtain ⟨extractor, data, text, hextractor, hsupports, hderive, htext, hrestore⟩ :=
    snippet_eq_ok_iff.1 hsnippet
  -- The excerpt is stored now, and still is in `u`.
  have hfound : u.store.find? d.snippetUri = some data :=
    hu.kept (Resolver.find?_of_derive hs hderive)
  have hreadable : u.Readable := hu.readable ((growing_code.of_ok hs h).readable hs)
  have hrestores := hq d.language
  rw [hextractor, Option.map_some, Option.map_eq_some_iff] at hrestores
  obtain ⟨other, hother, hsame⟩ := hrestores
  refine code_eq_ok_iff.2 ⟨snippet, snippet_eq_ok_iff.2 ?_, hwindow⟩
  exact ⟨other, data, text, hother, hsupports, Resolver.derive_of_find? hreadable hfound, htext,
    hsame ▸ hrestore⟩

end Transclude.Processor

namespace Transclude.Document

open Transclude

/-- A piece as an item of the rendered document. -/
def Piece.item : Piece → Item
  | .text line => .text line
  | .excerpt line d code => .directive line (CodeBlock.rendered line d.language code)

end Transclude.Document

namespace Transclude.Processor

open Transclude.Document

variable {σ : Type} {p q : Processor σ} {s s' : Session σ}

/-- The items of the rendered document are filled with what they show already. -/
theorem fill_again {items : List Item} {pieces : List Piece} {u : Session σ} (hs : s.Readable)
    (h : p.fill items s = .ok pieces s') (hu : s'.Grows u) (hq : q.RestoresAs p) :
    q.fill (pieces.map Piece.item) u = .ok pieces u := by
  induction items generalizing pieces s with
  | nil => cases h; rfl
  | cons item items ih =>
    cases item with
    | text line =>
      obtain ⟨rest, hrest, rfl⟩ := fill_text_eq_ok_iff.1 h
      exact fill_text_eq_ok_iff.2 ⟨rest, ih hs hrest, rfl⟩
    | directive line old =>
      obtain ⟨d, code, t, rest, hd, hcode, hfits, hrest, rfl⟩ := fill_directive_eq_ok_iff.1 h
      -- The rest of the document only adds to what this directive stored.
      have ht : t.Readable := (growing_code.of_ok hs hcode).readable hs
      have htu : t.Grows u := ((growing_fill items).of_ok ht hrest).trans hu
      exact fill_directive_eq_ok_iff.2
        ⟨d, code, u, rest, hd, code_again hs hcode htu hq, hfits, ih ht hrest, rfl⟩

/-- Old blocks make no difference to what items are filled with. -/
theorem fill_item {items : List Item} {pieces : List Piece} (h : p.fill items s = .ok pieces s') :
    p.fill (pieces.map Piece.item) = p.fill items := by
  induction items generalizing pieces s with
  | nil => cases h; rfl
  | cons item items ih =>
    cases item with
    | text line =>
      obtain ⟨rest, hrest, rfl⟩ := fill_text_eq_ok_iff.1 h
      simp only [List.map_cons, Piece.item, fill, ih hrest]
    | directive line old =>
      obtain ⟨d, code, t, rest, -, -, -, hrest, rfl⟩ := fill_directive_eq_ok_iff.1 h
      simp only [List.map_cons, Piece.item, fill, ih hrest]

/-- Rendering a document only adds to what is stored. -/
theorem growing_of_render {document out : String} (hs : s.Readable)
    (h : p.render document s = .ok out s') : s.Grows s' := by
  by_cases hdocument : document = ""
  · subst hdocument
    cases h
    exact .refl s
  · obtain ⟨items, pieces, -, hfill, -⟩ := (render_eq_ok_iff hdocument).1 h
    exact (growing_fill items).of_ok hs hfill

/-- A document that has been rendered is rendered in the same way for the rest of the session. -/
theorem render_repeated {document out : String} {u : Session σ} (hs : s.Readable)
    (h : p.render document s = .ok out s') (hu : s'.Grows u) :
    p.render document u = .ok out u := by
  by_cases hdocument : document = ""
  · subst hdocument
    cases h
    rfl
  · obtain ⟨items, pieces, hitems, hfill, rfl⟩ := (render_eq_ok_iff hdocument).1 h
    refine (render_eq_ok_iff hdocument).2 ⟨items, pieces, hitems, ?_, rfl⟩
    rw [← fill_item hfill]
    exact fill_again hs hfill hu (.refl p)

/-- The pieces of a document, written out, are lines again. -/
theorem join_written {lines : List String} {items : List Item} {pieces : List Piece}
    (hlines : ∀ l ∈ lines, '\n' ∉ l.toList) (hitems : Itemized lines items)
    (h : p.fill items s = .ok pieces s') :
    String.join (pieces.map Piece.written) = Text.unlines (pieces.flatMap Piece.lines) ∧
      ∀ l ∈ pieces.flatMap Piece.lines, '\n' ∉ l.toList := by
  induction hitems generalizing pieces s with
  | nil =>
    cases h
    exact ⟨rfl, by simp⟩
  -- A piece is one line of text, or a line and its block.
  | @text line behind items _ _ ih =>
    obtain ⟨rest, hrest, rfl⟩ := fill_text_eq_ok_iff.1 h
    have hline := hlines line List.mem_cons_self
    obtain ⟨heq, hfree⟩ := ih (fun l hl => hlines l (List.mem_cons_of_mem _ hl)) hrest
    rw [List.map_cons, String.join_cons, heq, List.flatMap_cons, Text.unlines_append]
    refine ⟨by simp [Piece.written, Piece.lines, Text.unlines_cons], fun l hl => ?_⟩
    rcases List.mem_append.1 hl with hl | hl
    · rw [Piece.lines, List.mem_singleton] at hl
      rwa [hl]
    · exact hfree l hl
  | @directive line old behind items _ _ _ ih =>
    obtain ⟨d, code, t, rest, -, -, -, hrest, rfl⟩ := fill_directive_eq_ok_iff.1 h
    have hline := hlines line List.mem_cons_self
    obtain ⟨heq, hfree⟩ := ih
      (fun l hl => hlines l (List.mem_cons_of_mem _ (List.mem_append_right _ hl))) hrest
    rw [List.map_cons, String.join_cons, heq, List.flatMap_cons, Text.unlines_append]
    refine ⟨by simp [Piece.written, Piece.lines, Text.unlines_cons,
      CodeBlock.render_eq_unlines hline], fun l hl => ?_⟩
    rcases List.mem_append.1 hl with hl | hl
    · rcases List.mem_cons.1 hl with rfl | hl
      -- The lines of a block are single lines if the line of the directive is.
      · exact hline
      · exact CodeBlock.newline_not_mem_rendered hline _ _ l hl
    · exact hfree l hl

/-- The lines of the rendered document fall into items as they were written, if no code that it
    shows ends a block early. -/
theorem itemized_again {lines : List String} {items : List Item} {pieces : List Piece}
    (hitems : Itemized lines items) (h : p.fill items s = .ok pieces s')
    (hcode : ∀ code ∈ pieces.filterMap Piece.code?, CodeBlock.Unfenced code) :
    Itemized (pieces.flatMap Piece.lines) (pieces.map Piece.item) := by
  induction hitems generalizing pieces s with
  | nil => cases h; exact .nil
  | text hline _ ih =>
    obtain ⟨rest, hrest, rfl⟩ := fill_text_eq_ok_iff.1 h
    exact .text hline (ih hrest hcode)
  | directive hline _ _ ih =>
    obtain ⟨d, code, t, rest, -, -, -, hrest, rfl⟩ := fill_directive_eq_ok_iff.1 h
    rw [List.filterMap_cons_some (f := Piece.code?) (b := code) rfl] at hcode
    -- The new block ends where it was written to end.
    have hunfenced := hcode code List.mem_cons_self
    refine .directive hline (oldBlock_iff.2 (CodeBlock.length?_rendered_append hunfenced _ _ _)) ?_
    exact ih hrest fun c hc => hcode c (List.mem_cons_of_mem _ hc)

/-- The lines of the rendered document are there, and fall into items as they were written, if no
    code that it shows ends a block early. -/
theorem itemized_written {document : String} {items : List Item} {pieces : List Piece}
    (hitems : Itemized (Text.lines document) items) (h : p.fill items s = .ok pieces s')
    (hcode : ∀ code ∈ pieces.filterMap Piece.code?, CodeBlock.Unfenced code) :
    String.join (pieces.map Piece.written) ≠ "" ∧
      Itemized (Text.lines (String.join (pieces.map Piece.written))) (pieces.map Piece.item) := by
  have hlines : ∀ l ∈ Text.lines document, '\n' ∉ l.toList :=
    fun _ hl => Text.newline_not_mem_of_mem_lines hl
  obtain ⟨hwritten, hfree⟩ := join_written hlines hitems h
  have hagain := itemized_again hitems h hcode
  -- There is a first line, so there is a first piece.
  have hne : pieces.flatMap Piece.lines ≠ [] := by
    intro hnil
    rw [hnil] at hagain
    have hpieces : pieces.length = 0 := by
      cases hmap : pieces.map Piece.item with
      | nil => simpa using hmap
      | cons item rest => rw [hmap] at hagain; cases hagain
    rw [length_of_fill_eq_ok h] at hpieces
    rw [List.length_eq_zero_iff.1 hpieces] at hitems
    exact Text.lines_ne_nil document hitems.flatMap_lines.symm
  rw [hwritten]
  refine ⟨Text.unlines_ne_empty hne, ?_⟩
  rw [Text.lines_unlines hne hfree]
  exact hagain

/-- Rendering `document` puts `code` into it. -/
def Splices (p : Processor σ) (document : String) (s : Session σ) (code : String) : Prop :=
  ∃ items pieces s', Itemized (Text.lines document) items ∧ p.fill items s = .ok pieces s' ∧
    code ∈ pieces.filterMap Piece.code?

/-- The code that is put into a document is that of its pieces. -/
theorem mem_of_splices {document : String} {items : List Item} {pieces : List Piece}
    (hitems : Itemized (Text.lines document) items) (hfill : p.fill items s = .ok pieces s')
    {code : String} (h : p.Splices document s code) : code ∈ pieces.filterMap Piece.code? := by
  obtain ⟨others, shown, t, hothers, hshown, hmem⟩ := h
  rw [hothers.unique hitems, hfill] at hshown
  cases hshown
  exact hmem

/-- A rendered document renders to itself in the same session, as long as no code in it ends a
    block early: the session stays as it is, and nothing is fetched or extracted. -/
theorem render_render {document out : String} (hs : s.Readable)
    (h : p.render document s = .ok out s')
    (hcode : ∀ code, p.Splices document s code → CodeBlock.Unfenced code) :
    p.render out s' = .ok out s' ∧
      ∀ q : Processor σ, q.RestoresAs p → q.render out s' = .ok out s' := by
  suffices hall : ∀ q : Processor σ, q.RestoresAs p → q.render out s' = .ok out s' from
    ⟨hall p (.refl p), hall⟩
  intro q hq
  by_cases hdocument : document = ""
  · rw [hdocument] at h
    cases h
    rfl
  · obtain ⟨items, pieces, hitems, hfill, rfl⟩ := (render_eq_ok_iff hdocument).1 h
    obtain ⟨hout, hagain⟩ := itemized_written hitems hfill fun code hmem =>
      hcode code ⟨items, pieces, s', hitems, hfill, hmem⟩
    -- The pieces are the items of the output, and are filled with what they show.
    exact (render_eq_ok_iff hout).2
      ⟨pieces.map Piece.item, pieces, hagain, fill_again hs hfill (.refl s') hq, rfl⟩

/-- The rendered sample document renders to itself. -/
theorem render_render_sample :
    (⟨{}, ()⟩ : Session Unit).Readable ∧
      sample.render sampleDocument ⟨{}, ()⟩ = .ok sampleOutput sampleSession ∧
      (∀ code, sample.Splices sampleDocument ⟨{}, ()⟩ code → CodeBlock.Unfenced code) ∧
      sample.render sampleOutput sampleSession = .ok sampleOutput sampleSession ∧
      ∀ q : Processor Unit, q.RestoresAs sample →
        q.render sampleOutput sampleSession = .ok sampleOutput sampleSession := by
  -- There is one code in the document, and it has no fence.
  have hcode : ∀ code, sample.Splices sampleDocument ⟨{}, ()⟩ code → CodeBlock.Unfenced code := by
    rintro code ⟨items, pieces, s', hitems, hfill, hmem⟩
    rw [hitems.unique itemized_sample, fill_sample] at hfill
    cases hfill
    obtain rfl : "k: v\n" = code := by simpa [samplePieces, Piece.code?] using hmem
    decide
  have hs : (⟨{}, ()⟩ : Session Unit).Readable := rfl
  exact ⟨hs, render_sample, hcode, render_render hs render_sample hcode⟩

end Transclude.Processor
