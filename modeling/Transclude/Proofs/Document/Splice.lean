import Transclude.Document
import Transclude.Go.BuiltIn
import Transclude.Proofs.Action
import Transclude.Proofs.CodeBlock
import Transclude.Yaml.BuiltIn

/-!
# What a rendered document is made of

The lines of a document fall into items: lines that are no directives, and
directive lines, each with the block that it left there before.  There is at most
one way to see a document so (`Itemized.unique`).

A document that renders is the items of its lines, each written out again, with a
new block under each directive line in place of the old one
(`render_eq_ok_iff`).
-/

namespace Transclude.Document

open Transclude

/-! ## Items -/

/-- A part of a document. -/
inductive Item where
  /-- A line that is no directive. -/
  | text (line : String)
  /-- A directive line with the old block under it. -/
  | directive (line : String) (old : List String)

/-- The lines of an item. -/
def Item.lines : Item → List String
  | text line => [line]
  | directive line old => line :: old

/-- `old` is the old block of a directive line, where the lines `behind` follow it: nothing unless
    the next line opens a block, and otherwise all lines up to the first one that closes it. -/
inductive OldBlock : List String → List String → Prop where
  | missing {behind : List String} (h : ∀ l ∈ behind.head?, CodeBlock.opens l = false) :
    OldBlock [] behind
  | fenced {first last : String} {inner behind : List String}
    (hfirst : CodeBlock.opens first = true)
    (hinner : ∀ l ∈ inner, CodeBlock.closes l = false) (hlast : CodeBlock.closes last = true) :
    OldBlock (first :: (inner ++ [last])) behind

/-- The lines fall into the items. -/
inductive Itemized : List String → List Item → Prop where
  | nil : Itemized [] []
  | text {line : String} {behind : List String} {items : List Item}
    (hline : Directive.marked line = false) (hbehind : Itemized behind items) :
    Itemized (line :: behind) (.text line :: items)
  | directive {line : String} {old behind : List String} {items : List Item}
    (hline : Directive.marked line = true) (hold : OldBlock old behind)
    (hbehind : Itemized behind items) :
    Itemized (line :: (old ++ behind)) (.directive line old :: items)

/-- The old block is what the scan for the end of a block finds. -/
theorem oldBlock_iff {old behind : List String} :
    OldBlock old behind ↔ CodeBlock.length? (old ++ behind) = some old.length := by
  constructor
  · intro h
    cases h with
    | missing h =>
      -- Without an opening fence nothing is skipped.
      cases behind with
      | nil => rfl
      | cons l ls => simp [CodeBlock.length?, h l (by simp)]
    | fenced hfirst hinner hlast =>
      rw [List.cons_append, List.append_assoc, List.singleton_append,
        CodeBlock.length?_of_fences hfirst hinner hlast]
      simp
  · intro h
    cases old with
    -- Nothing was skipped, so the next line opens no block.
    | nil =>
      apply OldBlock.missing
      intro l hl
      cases behind with
      | nil => simp at hl
      | cons m ls =>
        rw [List.head?_cons, Option.mem_some_iff] at hl
        rw [← hl]
        cases hm : CodeBlock.opens m with
        | false => rfl
        | true => simp [CodeBlock.length?, hm] at h
    | cons first block =>
      -- Something was skipped, so the block is open.
      cases hfirst : CodeBlock.opens first with
      | false => simp [CodeBlock.length?, hfirst] at h
      | true =>
        simp only [CodeBlock.length?, List.cons_append, hfirst, Bool.not_true, Bool.false_eq_true,
          if_false, Option.map_eq_some_iff, List.length_cons] at h
        obtain ⟨k, hk, hlength⟩ := h
        -- The closing line is the last line of the block.
        obtain ⟨hlt, hcloses, hbefore⟩ := List.findIdx?_eq_some_iff_getElem.1 hk
        have hblock : block = block.take k ++ [block[k]] := by
          rw [← List.take_succ_eq_append_getElem, List.take_of_length_le (by omega)]
        rw [List.getElem_append_left (by omega)] at hcloses
        rw [hblock]
        refine .fenced hfirst (fun l hl => ?_) hcloses
        obtain ⟨i, hi, rfl⟩ := List.mem_take_iff_getElem.1 hl
        have hopen := hbefore i (by omega)
        rw [List.getElem_append_left (by omega)] at hopen
        simpa using hopen

/-- An old block ends in one place. -/
theorem OldBlock.unique {old old' behind behind' : List String} (h : OldBlock old behind)
    (h' : OldBlock old' behind') (heq : old ++ behind = old' ++ behind') :
    old = old' ∧ behind = behind' := by
  rw [oldBlock_iff] at h h'
  rw [heq, h', Option.some.injEq] at h
  exact List.append_inj heq h.symm

/-- Lines fall into items in one way. -/
theorem Itemized.unique {lines : List String} {items items' : List Item}
    (h : Itemized lines items) (h' : Itemized lines items') : items = items' := by
  -- Each line is a directive or not, and its old block is known by where it ends.
  induction h generalizing items' with
  | nil => cases h'; rfl
  | text hline _ ih =>
    cases h' with
    | text _ hbehind => rw [ih hbehind]
    | directive hmarked => rw [hline] at hmarked; cases hmarked
  | @directive line old behind items hline hold _ ih =>
    generalize hlines : line :: (old ++ behind) = all at h'
    cases h' with
    | nil => cases hlines
    | text htext =>
      obtain ⟨rfl, -⟩ := List.cons.inj hlines
      rw [hline] at htext
      cases htext
    | directive _ hold' hbehind =>
      obtain ⟨rfl, heq⟩ := List.cons.inj hlines
      -- Two old blocks in front of the same lines are the same.
      obtain ⟨rfl, rfl⟩ := hold.unique hold' heq
      rw [ih hbehind]

/-- The lines of the items are the lines of the document, in order. -/
theorem Itemized.flatMap_lines {lines : List String} {items : List Item}
    (h : Itemized lines items) : items.flatMap Item.lines = lines := by
  induction h with
  | nil => rfl
  | text _ _ ih => rw [List.flatMap_cons, ih]; rfl
  | directive _ _ _ ih => rw [List.flatMap_cons, ih]; rfl

/-! ## Pieces -/

/-- A part of a rendered document. -/
inductive Piece where
  /-- A line as it was. -/
  | text (line : String)
  /-- A directive line, and a block with the code that it asks for. -/
  | excerpt (line : String) (directive : Directive) (code : String)

namespace Piece

/-- A piece as it stands in the rendered document. -/
def written : Piece → String
  | text line => line ++ "\n"
  | excerpt line directive code =>
    line ++ "\n" ++ CodeBlock.render line directive.language code

/-- The code that a piece shows. -/
def code? : Piece → Option String
  | text _ => none
  | excerpt _ _ code => some code

/-- The lines of a piece. -/
def lines : Piece → List String
  | text line => [line]
  | excerpt line directive code => line :: CodeBlock.rendered line directive.language code

end Piece

end Transclude.Document

namespace Transclude.Processor

open Transclude.Document

variable {σ : Type} {p : Processor σ} {s s' : Session σ}

/-- Every item rendered, in turn: one piece for each. -/
def fill (p : Processor σ) : List Item → Action (Session σ) (List Piece)
  | [] => return []
  | .text line :: items => do
    let pieces ← p.fill items
    return .text line :: pieces
  | .directive line _ :: items => do
    let d ← Action.ofExcept (Directive.parse line)
    let code ← p.code d
    let _ ← Action.ofExcept (CodeBlock.write line d.language code)
    let pieces ← p.fill items
    return .excerpt line d code :: pieces

/-! ## What filling gives -/

@[simp] theorem fill_nil : p.fill [] s = .ok [] s := rfl

/-- A line of text is kept, and the rest is filled. -/
theorem fill_text_eq_ok_iff {line : String} {items : List Item} {pieces : List Piece} :
    p.fill (.text line :: items) s = .ok pieces s' ↔
      ∃ rest, p.fill items s = .ok rest s' ∧ pieces = .text line :: rest := by
  simp only [fill, Action.bind_eq_ok_iff, Action.pure_apply, EStateM.Result.ok.injEq]
  constructor
  · rintro ⟨rest, t, hrest, rfl, rfl⟩
    exact ⟨rest, hrest, rfl⟩
  · rintro ⟨rest, hrest, rfl⟩
    exact ⟨rest, s', hrest, rfl, rfl⟩

/-- A directive gets the code that it asks for, and the rest is filled. -/
theorem fill_directive_eq_ok_iff {line : String} {old : List String} {items : List Item}
    {pieces : List Piece} :
    p.fill (.directive line old :: items) s = .ok pieces s' ↔
      ∃ d code t rest, Directive.parse line = .ok d ∧ p.code d s = .ok code t ∧
        CodeBlock.fits line = true ∧ p.fill items t = .ok rest s' ∧
        pieces = .excerpt line d code :: rest := by
  simp only [fill, Action.bind_eq_ok_iff, Action.ofExcept_eq_ok_iff, CodeBlock.write_eq_ok_iff,
    Action.pure_apply, EStateM.Result.ok.injEq]
  constructor
  · rintro ⟨d, _, ⟨hd, rfl⟩, code, _, hcode, _, t, ⟨⟨hfits, -⟩, rfl⟩, rest, _, hrest, rfl, rfl⟩
    exact ⟨d, code, _, rest, hd, hcode, hfits, hrest, rfl⟩
  · rintro ⟨d, code, t, rest, hd, hcode, hfits, hrest, rfl⟩
    exact ⟨d, s, ⟨hd, rfl⟩, code, t, hcode, _, t, ⟨⟨hfits, rfl⟩, rfl⟩, rest, s', hrest, rfl, rfl⟩

/-- Filling gives one piece for each item. -/
theorem length_of_fill_eq_ok {items : List Item} {pieces : List Piece}
    (h : p.fill items s = .ok pieces s') : pieces.length = items.length := by
  induction items generalizing pieces s with
  | nil => cases h; rfl
  | cons item items ih =>
    cases item with
    | text line =>
      obtain ⟨rest, hrest, rfl⟩ := fill_text_eq_ok_iff.1 h
      rw [List.length_cons, List.length_cons, ih hrest]
    | directive line old =>
      obtain ⟨_, _, _, rest, -, -, -, hrest, rfl⟩ := fill_directive_eq_ok_iff.1 h
      rw [List.length_cons, List.length_cons, ih hrest]

/-! ## The scan -/

/-- The lines of a replaced block are passed over. -/
theorem renderLines_passing (number passing : Nat) (lines : List String) :
    p.renderLines number passing lines =
      p.renderLines (number + passing) 0 (lines.drop passing) := by
  induction passing generalizing number lines with
  | zero => rfl
  | succ passing ih =>
    cases lines with
    | nil => rfl
    | cons line rest =>
      have hnumber : number + 1 + passing = number + (passing + 1) := by omega
      simp only [renderLines, List.drop_succ_cons]
      rw [ih, hnumber]

/-- A line of text is kept, and the next line is rendered. -/
theorem renderLines_text {line : String} (h : Directive.marked line = false) (number : Nat)
    (rest : List String) :
    p.renderLines number 0 (line :: rest) =
      (do let tail ← p.renderLines (number + 1) 0 rest; return line ++ "\n" ++ tail) := by
  simp only [renderLines, h, Bool.false_eq_true, if_false]

/-- A directive is written with its block, and the old block is passed over. -/
theorem renderLines_directive {line : String} (h : Directive.marked line = true) (number : Nat)
    (rest : List String) :
    p.renderLines number 0 (line :: rest) =
      (do
        let (block, old) ← (p.splice line rest).withContext { line := some (number : Int) }
        let tail ← p.renderLines (number + 1 + old) 0 (rest.drop old)
        return line ++ "\n" ++ block ++ tail) := by
  simp only [renderLines, h, if_true]
  -- What is left are the lines that are passed over.
  congr
  funext ⟨block, old⟩
  rw [renderLines_passing]

/-- What a directive line is followed by, if nothing fails. -/
theorem splice_eq_ok_iff {line new : String} {rest : List String} {old : Nat} :
    p.splice line rest s = .ok (new, old) s' ↔
      ∃ d code, Directive.parse line = .ok d ∧ p.code d s = .ok code s' ∧
        CodeBlock.fits line = true ∧ CodeBlock.length? rest = some old ∧
        new = CodeBlock.render line d.language code := by
  unfold splice
  cases hparse : Directive.parse line with
  | error e =>
    constructor
    · intro h; cases h
    · rintro ⟨_, _, hd, -⟩; cases hd
  | ok d =>
    simp only [Action.withContext_eq_ok_iff, block, Action.bind_eq_ok_iff,
      Action.ofExcept_eq_ok_iff, CodeBlock.write_eq_ok_iff, CodeBlock.skip_zero_eq_ok_iff,
      Action.pure_apply, EStateM.Result.ok.injEq, Prod.mk.injEq]
    -- Each step of the splicing is taken apart, or made again.
    constructor
    · rintro ⟨code, t, hcode, _, _, ⟨⟨hfits, rfl⟩, rfl⟩, n, _, ⟨hlength, rfl⟩, ⟨rfl, rfl⟩, rfl⟩
      exact ⟨d, code, rfl, hcode, hfits, hlength, rfl⟩
    · rintro ⟨d', code, hd, hcode, hfits, hlength, rfl⟩
      cases hd
      exact ⟨code, s', hcode, _, s', ⟨⟨hfits, rfl⟩, rfl⟩, old, s', ⟨hlength, rfl⟩, ⟨rfl, rfl⟩, rfl⟩

/-- Lines that render are items, and the output is what these are filled with. -/
theorem exists_of_renderLines_eq_ok (lines : List String) {number : Nat} {out : String}
    {s s' : Session σ} (h : p.renderLines number 0 lines s = .ok out s') :
    ∃ items pieces, Itemized lines items ∧ p.fill items s = .ok pieces s' ∧
      out = String.join (pieces.map Piece.written) := by
  match lines with
  | [] =>
    cases h
    exact ⟨[], [], .nil, rfl, rfl⟩
  | line :: rest =>
    cases hline : Directive.marked line with
    | false =>
      rw [renderLines_text hline, Action.bind_eq_ok_iff] at h
      obtain ⟨tail, t, htail, hout⟩ := h
      cases hout
      obtain ⟨items, pieces, hitems, hfill, rfl⟩ := exists_of_renderLines_eq_ok rest htail
      refine ⟨.text line :: items, .text line :: pieces, .text hline hitems,
        fill_text_eq_ok_iff.2 ⟨pieces, hfill, rfl⟩, ?_⟩
      rw [List.map_cons, String.join_cons]
      rfl
    | true =>
      -- A directive line: its block, and then the lines behind the old block.
      rw [renderLines_directive hline, Action.bind_eq_ok_iff] at h
      obtain ⟨⟨block, old⟩, t, hsplice, h⟩ := h
      rw [Action.withContext_eq_ok_iff, splice_eq_ok_iff] at hsplice
      obtain ⟨d, code, hd, hcode, hfits, hold, rfl⟩ := hsplice
      obtain ⟨tail, t', htail, hout⟩ := Action.bind_eq_ok_iff.1 h
      cases hout
      have hlt : (rest.drop old).length < (line :: rest).length := by
        rw [List.length_drop, List.length_cons]
        omega
      obtain ⟨items, pieces, hitems, hfill, rfl⟩ :=
        exists_of_renderLines_eq_ok (rest.drop old) htail
      -- The lines passed over are the old block.
      have hle : old ≤ rest.length := CodeBlock.le_length_of_length? hold
      have hblock : OldBlock (rest.take old) (rest.drop old) := by
        rw [oldBlock_iff, List.take_append_drop, List.length_take_of_le hle, hold]
      refine ⟨.directive line (rest.take old) :: items, .excerpt line d code :: pieces, ?_,
        fill_directive_eq_ok_iff.2 ⟨d, code, t, pieces, hd, hcode, hfits, hfill, rfl⟩, ?_⟩
      · have hitemized := Itemized.directive hline hblock hitems
        rwa [List.take_append_drop] at hitemized
      · rw [List.map_cons, String.join_cons]
        rfl
termination_by lines.length

/-- Items that can be filled are rendered so. -/
theorem renderLines_eq_ok_of_fill {lines : List String} {items : List Item} {pieces : List Piece}
    (hitems : Itemized lines items) (hfill : p.fill items s = .ok pieces s') (number : Nat) :
    p.renderLines number 0 lines s = .ok (String.join (pieces.map Piece.written)) s' := by
  -- The lines are rendered along the items.
  induction hitems generalizing pieces s number with
  | nil => cases hfill; rfl
  | text hline _ ih =>
    obtain ⟨rest, hrest, rfl⟩ := fill_text_eq_ok_iff.1 hfill
    rw [renderLines_text hline, Action.bind_eq_ok_iff]
    refine ⟨_, s', ih hrest (number + 1), ?_⟩
    rw [Action.pure_apply, List.map_cons, String.join_cons]
    rfl
  | @directive line old behind items hline hold _ ih =>
    obtain ⟨d, code, t, rest, hd, hcode, hfits, hrest, rfl⟩ := fill_directive_eq_ok_iff.1 hfill
    rw [renderLines_directive hline, Action.bind_eq_ok_iff]
    -- The block is written, and the old one passed over.
    refine ⟨(CodeBlock.render line d.language code, old.length), t, ?_, ?_⟩
    · rw [Action.withContext_eq_ok_iff, splice_eq_ok_iff]
      exact ⟨d, code, hd, hcode, hfits, oldBlock_iff.1 hold, rfl⟩
    · dsimp only
      rw [Action.bind_eq_ok_iff, List.drop_left]
      refine ⟨_, s', ih hrest _, ?_⟩
      rw [Action.pure_apply, List.map_cons, String.join_cons]
      rfl

/-- A document that is not empty renders as its items filled, and not at all otherwise. -/
theorem render_eq_ok_iff {document out : String} (hdocument : document ≠ "") :
    p.render document s = .ok out s' ↔
      ∃ items pieces, Itemized (Text.lines document) items ∧ p.fill items s = .ok pieces s' ∧
        out = String.join (pieces.map Piece.written) := by
  have hne : document.isEmpty = false := by
    rw [Bool.eq_false_iff, ne_eq, String.isEmpty_iff]
    exact hdocument
  simp only [render, hne, Bool.false_eq_true, if_false]
  constructor
  · exact exists_of_renderLines_eq_ok _
  · rintro ⟨items, pieces, hitems, hfill, rfl⟩
    exact renderLines_eq_ok_of_fill hitems hfill 1

/-- The lines of a document that renders fall into items in exactly one way.  The output is these
    items in their order: each line that is no directive as it was, and each directive line with one
    block, of its language and its code, in place of the old one. -/
theorem render_written {document out : String} (hdocument : document ≠ "")
    (h : p.render document s = .ok out s') :
    ∃ items, Itemized (Text.lines document) items ∧
      (∀ others, Itemized (Text.lines document) others → others = items) ∧
      items.flatMap Item.lines = Text.lines document ∧
      ∃ pieces, p.fill items s = .ok pieces s' ∧ pieces.length = items.length ∧
        out = String.join (pieces.map Piece.written) := by
  obtain ⟨items, pieces, hitems, hfill, hout⟩ := (render_eq_ok_iff hdocument).1 h
  exact ⟨items, hitems, fun others hothers => hothers.unique hitems, hitems.flatMap_lines, pieces,
    hfill, length_of_fill_eq_ok hfill, hout⟩

/-! ## A document that renders -/

/-- A processor for both languages, which knows one source. -/
def sample : Processor Unit where
  extractors
    | .go => some (Extractor.go Go.builtIn)
    | .yaml => some (Extractor.yaml Yaml.builtIn)
  fetchers := [fun uri => Action.ofExcept <|
    if uri = "a" then .ok (Text.encode "k: v\n") else .error (.about uri (.transport uri "gone"))]

/-- An indented directive line with a carriage return. -/
def sampleLine : String := "  <!-- pluck(\"yaml\", \"file\", \"n\", \"a\", 0, 0) -->\r"

/-- A document with an outdated block and no final newline. -/
def sampleDocument : String := "t\n" ++ sampleLine ++ "\n```yaml\nold\n```\nend"

/-- The document with the block brought up to date. -/
def sampleOutput : String := "t\n" ++ sampleLine ++ "\n  ```yaml\r\n  k: v\r\n  ```\r\nend\n"

/-- The items of the document. -/
def sampleItems : List Item :=
  [.text "t", .directive sampleLine ["```yaml", "old", "```"], .text "end"]

/-- What the items are filled with. -/
def samplePieces : List Piece :=
  [.text "t", .excerpt sampleLine ⟨.yaml, .file, "n", "a", 0, 0⟩ "k: v\n", .text "end"]

/-- The session in which the document has been rendered. -/
def sampleSession : Session Unit :=
  ⟨{ entries := [("a", Text.encode "k: v\n"), ("a.file.n", Text.encode "k: v\n")] }, ()⟩

/-- The items of the sample document. -/
theorem itemized_sample : Itemized (Text.lines sampleDocument) sampleItems := by
  have hlines : Text.lines sampleDocument =
      "t" :: sampleLine :: (["```yaml", "old", "```"] ++ ["end"]) := by decide
  have hold : OldBlock ["```yaml", "old", "```"] ["end"] := oldBlock_iff.2 (by decide)
  rw [hlines]
  exact .text (by decide) (.directive (by decide) hold (.text (by decide) .nil))

set_option maxRecDepth 4000 in

/-- The sample items are filled with the sample pieces. -/
theorem fill_sample : sample.fill sampleItems ⟨{}, ()⟩ = .ok samplePieces sampleSession := by
  have hparse : Directive.parse sampleLine = .ok ⟨.yaml, .file, "n", "a", 0, 0⟩ := rfl
  have hcode : sample.code ⟨.yaml, .file, "n", "a", 0, 0⟩ ⟨{}, ()⟩ = .ok "k: v\n" sampleSession :=
    rfl
  refine fill_text_eq_ok_iff.2
    ⟨_, fill_directive_eq_ok_iff.2 ⟨_, _, _, _, hparse, hcode, by decide, ?_, rfl⟩, rfl⟩
  exact fill_text_eq_ok_iff.2 ⟨[], fill_nil, rfl⟩

/-- The sample document renders to the sample output. -/
theorem render_sample :
    sample.render sampleDocument ⟨{}, ()⟩ = .ok sampleOutput sampleSession :=
  (render_eq_ok_iff (by decide)).2 ⟨_, _, itemized_sample, fill_sample, by decide⟩

/-- The output of the sample document is its pieces in order, and its items are unique. -/
theorem render_written_sample :
    sampleDocument ≠ "" ∧
      sample.render sampleDocument ⟨{}, ()⟩ = .ok sampleOutput sampleSession ∧
      ∃ items, Itemized (Text.lines sampleDocument) items ∧
        (∀ others, Itemized (Text.lines sampleDocument) others → others = items) ∧
        items.flatMap Item.lines = Text.lines sampleDocument ∧
        ∃ pieces, sample.fill items ⟨{}, ()⟩ = .ok pieces sampleSession ∧
          pieces.length = items.length ∧ sampleOutput = String.join (pieces.map Piece.written) :=
  have hdocument : sampleDocument ≠ "" := by decide
  ⟨hdocument, render_sample, render_written hdocument render_sample⟩

end Transclude.Processor
