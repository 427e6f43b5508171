import Transclude.Proofs.Document.Reprocess
import Transclude.Proofs.Document.Return

/-!
# The frame around a block

A block is framed by what its directive line says.  Under a line that is `bare` and carriage
returns, every line of the block starts with the indentation of `bare` and ends with these carriage
returns and a newline, and between the fences stand the lines of the code (`render_append_returns`).
What is put around the lines can be taken off again (`unframe_line`), so the code that was put in is
there.  Only a line with very many carriage returns has no block: each of them takes a call inside
of another one (`write_append_returns`).

A document whose newlines all stand behind carriage returns is rendered to such a text
(`paired_of_render`): its lines end in carriage returns, so the lines of its blocks do.
-/

namespace Transclude

/-! ## Newlines behind carriage returns -/

namespace Text

/-- Every newline stands behind a carriage return. -/
def Paired (cs : List Char) : Prop :=
  ∀ front back, cs = front ++ '\n' :: back → front.getLast? = some '\r'

/-- There is nothing to pair in an empty text. -/
private theorem paired_nil : Paired [] := by
  intro front back h
  simp at h

/-- The first newline stands behind a carriage return, and those behind it do. -/
theorem paired_append_iff {cs ds : List Char} (h : '\n' ∉ cs) :
    Paired (cs ++ '\n' :: ds) ↔ cs.getLast? = some '\r' ∧ Paired ds := by
  constructor
  · intro hpaired
    refine ⟨hpaired cs ds rfl, fun front back hds => ?_⟩
    have hlast := hpaired (cs ++ '\n' :: front) back (by rw [hds]; simp)
    cases front with
    | nil => simp at hlast
    | cons c front => simpa using hlast
  · rintro ⟨hlast, hpaired⟩ front back heq
    -- The newline is the first one, or stands behind it.
    rcases List.append_eq_append_iff.1 heq with ⟨more, rfl, hmore⟩ | ⟨more, rfl, hmore⟩
    · cases more with
      | nil => simpa using hlast
      | cons c more =>
        obtain ⟨rfl, hds⟩ := List.cons.inj hmore
        have hbehind := hpaired more back hds
        rw [List.getLast?_append, List.getLast?_cons, hbehind]
        rfl
    · cases more with
      | nil => simpa using hlast
      | cons c more =>
        obtain ⟨rfl, -⟩ := List.cons.inj hmore
        simp at h

/-- In lines that are written out, each newline stands behind its line. -/
theorem paired_unlines_iff {ls : List String} (h : ∀ l ∈ ls, '\n' ∉ l.toList) :
    Paired (unlines ls).toList ↔ ∀ l ∈ ls, l.toList.getLast? = some '\r' := by
  induction ls with
  | nil => simp [paired_nil]
  | cons l ls ih =>
    have hl := h l List.mem_cons_self
    have hls := ih fun m hm => h m (List.mem_cons_of_mem _ hm)
    have hcs : (unlines (l :: ls)).toList = l.toList ++ '\n' :: (unlines ls).toList := by
      rw [unlines_cons, String.toList_append, String.toList_append, List.append_assoc]
      rfl
    rw [hcs, paired_append_iff hl, hls, List.forall_mem_cons]

/-- A text that ends in a newline is its lines. -/
theorem unlines_lines_of_getLast? {s : String} (h : s.toList.getLast? = some '\n') :
    unlines (lines s) = s := by
  rw [unlines_lines, terminated, if_pos h, String.ofList_toList]

end Text

/-! ## Blocks -/

namespace CodeBlock

open Transclude.Text

/-- What ends each line of a block under a directive line with `n` carriage returns. -/
def ending (n : Nat) : String := returns n ++ "\n"

/-- Code as it is shown under a directive line with `n` carriage returns: with `n` carriage returns
    less at the end of each line where there are so many, and with a final newline. -/
def shown (n : Nat) (code : String) : String :=
  String.ofList (terminated (withoutReturnPairs n code).toList)

/-- Lines between two fences, all of them between `margin` and `ending`. -/
def framed (margin tag ending : String) (ls : List String) : String :=
  margin ++ fence ++ tag ++ ending ++
    String.join (ls.map fun l => margin ++ l ++ ending) ++
    margin ++ fence ++ ending

/-- The lines between the first and the last line of a block. -/
def inner (block : String) : List String := ((lines block).drop 1).dropLast

/-- A line without `margin` in front and `n` carriage returns behind. -/
def unframe (margin : String) (n : Nat) (line : String) : String :=
  let cs := line.toList.drop margin.toList.length
  String.ofList (cs.take (cs.length - n))

/-- A line comes out of the frame as it was put in. -/
private theorem unframe_line (margin line : String) (n : Nat) :
    unframe margin n (margin ++ line ++ returns n) = line := by
  simp [unframe, returns]

/-! ### The directive line -/

/-- The first of the carriage returns may be counted with the line. -/
private theorem append_returns_succ (bare : String) (n : Nat) :
    bare ++ returns (n + 1) = returned (bare ++ returns n) := by
  rw [returned, String.append_assoc, returns_succ]

/-- A line without a carriage return at its end has nothing to take off. -/
theorem returns_of_getLast? {bare : String} (h : bare.toList.getLast? ≠ some '\r') :
    finalReturns bare = 0 ∧ withoutReturns bare = bare := by
  have hhead : bare.toList.reverse.head? ≠ some '\r' := by rwa [List.head?_reverse]
  have hnone : bare.toList.reverse.takeWhile (· = '\r') = [] ∧
      bare.toList.reverse.dropWhile (· = '\r') = bare.toList.reverse := by
    cases hcs : bare.toList.reverse with
    | nil => exact ⟨rfl, rfl⟩
    | cons c cs =>
      rw [hcs] at hhead
      have hc : c ≠ '\r' := fun hc => hhead (by rw [hc]; rfl)
      simp [hc]
  rw [finalReturns, withoutReturns, hnone.1, hnone.2, List.reverse_reverse, String.ofList_toList]
  exact ⟨rfl, rfl⟩

/-- What is taken off a line are the carriage returns at its end. -/
theorem returns_append_returns {bare : String} (h : bare.toList.getLast? ≠ some '\r') (n : Nat) :
    finalReturns (bare ++ returns n) = n ∧ withoutReturns (bare ++ returns n) = bare := by
  induction n with
  | zero =>
    have hzero : returns 0 = "" := rfl
    rw [hzero, String.append_empty]
    exact returns_of_getLast? h
  | succ n ih =>
    rw [append_returns_succ, finalReturns_returned, withoutReturns_returned, ih.1, ih.2]
    exact ⟨rfl, rfl⟩

/-- The lines of a block, under a line that is `bare` and carriage returns. -/
theorem rendered_append_returns {bare : String} (h : bare.toList.getLast? ≠ some '\r') (n : Nat)
    (language : Language) (code : String) :
    rendered (bare ++ returns n) language code = linesUnder bare language n code := by
  obtain ⟨hn, hline⟩ := returns_append_returns h n
  rw [rendered, hn, hline]

/-- A block is written unless the carriage returns behind its line are too many. -/
theorem write_append_returns {bare : String} (h : bare.toList.getLast? ≠ some '\r') (n : Nat)
    (language : Language) (code : String) :
    write (bare ++ returns n) language code =
      if n < Fault.callDepth then .ok (render (bare ++ returns n) language code)
      else .error (.fault Fault.tooDeepInCall) := by
  rw [write, fits, (returns_append_returns h n).1]
  by_cases hn : n < Fault.callDepth <;> simp [hn]

/-! ### The frame -/

/-- A frame is lines, written out. -/
theorem framed_eq_unlines (margin tag : String) (n : Nat) (ls : List String) :
    framed margin tag (ending n) ls =
      unlines (((margin ++ fence ++ tag) :: ls.map (margin ++ ·) ++ [margin ++ fence]).map
        (· ++ returns n)) := by
  have hls : (ls.map fun l => margin ++ l ++ ending n) =
      (ls.map fun l => margin ++ l ++ returns n).map (· ++ "\n") := by
    simp only [List.map_map, Function.comp_def, ending, String.append_assoc]
  rw [framed, hls]
  simp [unlines, ending, String.append_assoc, Function.comp_def]

/-- The lines between the fences are those of the code, between the margin and carriage returns. -/
theorem inner_unlines (first last : String) (ls : List String)
    (h : ∀ l ∈ first :: ls ++ [last], '\n' ∉ l.toList) :
    inner (unlines (first :: ls ++ [last])) = ls := by
  rw [inner, lines_unlines (by simp) h, List.cons_append, List.drop_succ_cons, List.drop_zero,
    List.dropLast_concat]

section

variable {bare : String} (hbare : '\n' ∉ bare.toList) (hlast : bare.toList.getLast? ≠ some '\r')
include hbare hlast

/-- A block is its code in a frame: the margin of `bare` in front of each line, the line ending of
    the directive line behind. -/
theorem render_append_returns (n : Nat) (language : Language) (code : String) :
    render (bare ++ returns n) language code =
      framed (indentation bare) language.tag (ending n) (lines (shown n code)) := by
  have hline : '\n' ∉ (bare ++ returns n).toList := by
    rw [String.toList_append, List.mem_append, not_or]
    exact ⟨hbare, newline_not_mem_returns n⟩
  rw [render_eq_unlines hline, rendered_append_returns hlast, linesUnder, plainLines,
    framed_eq_unlines, shown, lines_terminated]

/-- Without their frame, the lines between the fences are the code. -/
theorem unlines_unframe_inner (n : Nat) (language : Language) (code : String) :
    unlines ((inner (render (bare ++ returns n) language code)).map
      (unframe (indentation bare) n)) = shown n code := by
  have hfree := newline_not_mem_linesUnder hbare language n code
  rw [render_append_returns hbare hlast, framed_eq_unlines, shown, lines_terminated]
  rw [linesUnder, plainLines] at hfree
  rw [List.map_append, List.map_cons, List.map_singleton] at hfree ⊢
  rw [inner_unlines _ _ _ hfree, List.map_map, List.map_map]
  -- Each line comes out of its frame as it was.
  have hlines : ((unframe (indentation bare) n ∘ fun l => l ++ returns n) ∘
      fun l => indentation bare ++ l) = id := funext fun l => unframe_line _ l n
  rw [hlines, List.map_id, unlines_lines]

end

/-- The lines of a block end in carriage returns if the directive line does. -/
theorem getLast?_of_mem_rendered {line : String} (h : line.toList.getLast? = some '\r')
    (language : Language) (code : String) :
    ∀ l ∈ rendered line language code, l.toList.getLast? = some '\r' := by
  intro l hl
  obtain ⟨plain, -, rfl⟩ := List.mem_map.1 hl
  obtain ⟨front, hfront⟩ := List.getLast?_eq_some_iff.1 h
  -- There is one carriage return at least.
  have hreturns : finalReturns line = (front.reverse.takeWhile (· = '\r')).length + 1 := by
    simp [finalReturns, hfront]
  rw [hreturns, ← returns_succ, String.toList_append, String.toList_append]
  simp

end CodeBlock

/-! ## Documents -/

namespace Processor

open Transclude.Document

variable {σ : Type} {p : Processor σ} {s s' : Session σ}

/-- Items whose lines end in carriage returns are filled with such lines. -/
theorem getLast?_of_fill {items : List Item} {pieces : List Piece}
    (hitems : ∀ l ∈ items.flatMap Item.lines, l.toList.getLast? = some '\r')
    (h : p.fill items s = .ok pieces s') :
    ∀ l ∈ pieces.flatMap Piece.lines, l.toList.getLast? = some '\r' := by
  -- Every piece is rendered from lines that end in a carriage return.
  induction items generalizing pieces s with
  | nil =>
    cases h
    exact hitems
  | cons item items ih =>
    rw [List.flatMap_cons, List.forall_mem_append] at hitems
    obtain ⟨hitem, hitems⟩ := hitems
    cases item with
    | text line =>
      obtain ⟨rest, hrest, rfl⟩ := fill_text_eq_ok_iff.1 h
      rw [List.flatMap_cons, List.forall_mem_append]
      exact ⟨hitem, ih hitems hrest⟩
    | directive line old =>
      obtain ⟨d, code, t, rest, -, -, -, hrest, rfl⟩ := fill_directive_eq_ok_iff.1 h
      have hline := hitem line List.mem_cons_self
      rw [List.flatMap_cons, List.forall_mem_append, Piece.lines, List.forall_mem_cons]
      -- The line stays, and every line of the block ends like it.
      exact ⟨⟨hline, CodeBlock.getLast?_of_mem_rendered hline _ _⟩, ih hitems hrest⟩

/-- Where each newline stands behind a carriage return, the last one at the end, it does in the
    output. -/
theorem paired_of_render {document out : String} (hpaired : Text.Paired document.toList)
    (hend : document.toList.getLast? = some '\n') (h : p.render document s = .ok out s') :
    Text.Paired out.toList := by
  have hne : document ≠ "" := by
    rintro rfl
    cases hend
  obtain ⟨items, pieces, hitems, hfill, rfl⟩ := (render_eq_ok_iff hne).1 h
  have hfree : ∀ l ∈ Text.lines document, '\n' ∉ l.toList :=
    fun l => Text.newline_not_mem_of_mem_lines
  -- The document is its lines, so these end in carriage returns.
  rw [← Text.unlines_lines_of_getLast? hend, Text.paired_unlines_iff hfree,
    ← hitems.flatMap_lines] at hpaired
  obtain ⟨hwritten, hwrittenFree⟩ := join_written hfree hitems hfill
  rw [hwritten, Text.paired_unlines_iff hwrittenFree]
  exact getLast?_of_fill hpaired hfill

/-- A block is its code, each line between the indentation of the directive line and its line
    ending, and the code comes out of this frame as it was put in; it is written unless there are
    too many carriage returns.  So a document whose line breaks are all a carriage return and a
    newline, the last of them at its end, is rendered to a text whose newlines all stand behind
    carriage returns. -/
theorem render_framed (p : Processor σ) :
    (∀ (bare : String) (n : Nat) (language : Language) (code : String),
      '\n' ∉ bare.toList → bare.toList.getLast? ≠ some '\r' →
        let line := bare ++ CodeBlock.returns n
        let block := CodeBlock.render line language code
        let margin := CodeBlock.indentation bare
        let shown := CodeBlock.shown n code
        CodeBlock.write line language code =
            (if n < Fault.callDepth then .ok block else .error (.fault Fault.tooDeepInCall)) ∧
          block = CodeBlock.framed margin language.tag (CodeBlock.ending n) (Text.lines shown) ∧
          Text.unlines ((CodeBlock.inner block).map (CodeBlock.unframe margin n)) = shown) ∧
      ∀ (document out : String) (s s' : Session σ), Text.Paired document.toList →
        document.toList.getLast? = some '\n' → p.render document s = .ok out s' →
          Text.Paired out.toList := by
  constructor
  -- The block, and then a document of such lines.
  · intro bare n language code hbare hlast
    exact ⟨CodeBlock.write_append_returns hlast n language code,
      CodeBlock.render_append_returns hbare hlast n language code,
      CodeBlock.unlines_unframe_inner hbare hlast n language code⟩
  · intro document out s s' hpaired hend h
    exact paired_of_render hpaired hend h

/-- A document with carriage returns and without a block. -/
def returnedDocument : String := "t\r\n" ++ sampleLine ++ "\n"

/-- The document with a block. -/
def returnedOutput : String := returnedDocument ++ "  ```yaml\r\n  k: v\r\n  ```\r\n"

/-- The items of the document with carriage returns. -/
private theorem itemized_returnedDocument :
    Itemized (Text.lines returnedDocument) [.text "t\r", .directive sampleLine []] := by
  have hlines : Text.lines returnedDocument = "t\r" :: sampleLine :: ([] ++ []) := by decide
  rw [hlines]
  exact .text (by decide) (.directive (by decide) (.missing (by simp)) .nil)

/-- In the document every carriage return stands in front of a newline. -/
private theorem paired_returnedDocument : Text.Paired returnedDocument.toList := by
  have hunlines : returnedDocument = Text.unlines ["t\r", sampleLine] := by decide
  rw [hunlines, Text.paired_unlines_iff (by decide)]
  decide

set_option maxRecDepth 4000 in

/-- The document with carriage returns renders to a block with carriage returns. -/
theorem render_returnedDocument :
    sample.render returnedDocument ⟨{}, ()⟩ = .ok returnedOutput sampleSession := by
  have hparse : Directive.parse sampleLine = .ok ⟨.yaml, .file, "n", "a", 0, 0⟩ := rfl
  have hcode : sample.code ⟨.yaml, .file, "n", "a", 0, 0⟩ ⟨{}, ()⟩ = .ok "k: v\n" sampleSession :=
    rfl
  have hfill : sample.fill [.text "t\r", .directive sampleLine []] ⟨{}, ()⟩ =
      .ok [.text "t\r", .excerpt sampleLine ⟨.yaml, .file, "n", "a", 0, 0⟩ "k: v\n"]
        sampleSession :=
    fill_text_eq_ok_iff.2
      ⟨_, fill_directive_eq_ok_iff.2 ⟨_, _, _, _, hparse, hcode, by decide, fill_nil, rfl⟩, rfl⟩
  exact (render_eq_ok_iff (by decide)).2 ⟨_, _, itemized_returnedDocument, hfill, by decide⟩

/-- Code with carriage returns and an empty line, under an indented line with two of them. -/
theorem render_framed_sample :
    '\n' ∉ "  d".toList ∧ "  d".toList.getLast? ≠ some '\r' ∧
      CodeBlock.write ("  d" ++ CodeBlock.returns 2) .go "a\r\r\r\n\r\nb" =
        .ok (CodeBlock.framed "  " "go" "\r\r\n" ["a\r", "", "b"]) ∧
      Text.unlines ((CodeBlock.inner "  ```go\r\r\n  a\r\r\r\n  \r\r\n  b\r\r\n  ```\r\r\n").map
        (CodeBlock.unframe "  " 2)) = "a\r\n\nb\n" ∧
      Text.Paired returnedDocument.toList ∧ returnedDocument.toList.getLast? = some '\n' ∧
      sample.render returnedDocument ⟨{}, ()⟩ = .ok returnedOutput sampleSession ∧
      Text.Paired returnedOutput.toList := by
  have hbare : '\n' ∉ "  d".toList := by decide
  have hlast : "  d".toList.getLast? ≠ some '\r' := by decide
  have hblock : CodeBlock.render ("  d" ++ CodeBlock.returns 2) .go "a\r\r\r\n\r\nb" =
      "  ```go\r\r\n  a\r\r\r\n  \r\r\n  b\r\r\n  ```\r\r\n" := by decide
  have hshown : CodeBlock.shown 2 "a\r\r\r\n\r\nb" = "a\r\n\nb\n" := by decide
  have hlines : Text.lines "a\r\n\nb\n" = ["a\r", "", "b"] := by decide
  have hmargin : CodeBlock.indentation "  d" = "  " := by decide
  -- The general theorem is taken at the line and the code, and what is computed is put in.
  obtain ⟨hwrite, hframed, hinner⟩ :=
    (render_framed sample).1 "  d" 2 .go "a\r\r\r\n\r\nb" hbare hlast
  rw [if_pos (by decide)] at hwrite
  rw [hshown, hlines, hmargin] at hframed
  rw [hframed] at hwrite
  rw [hblock, hshown, hmargin] at hinner
  have hend : returnedDocument.toList.getLast? = some '\n' := by decide
  have hpaired := (render_framed sample).2 _ _ _ _ paired_returnedDocument hend
    render_returnedDocument
  exact ⟨hbare, hlast, hwrite, hinner, paired_returnedDocument, hend, render_returnedDocument,
    hpaired⟩

/-- Under a line with very many carriage returns there is no block. -/
theorem write_manyReturns :
    CodeBlock.write ("d" ++ CodeBlock.returns 1500) .go "a" =
      .error (.fault Fault.tooDeepInCall) := by
  rw [CodeBlock.write_append_returns (by decide), if_neg (by decide)]

end Processor

end Transclude
