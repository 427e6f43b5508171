import Transclude.Proofs.Document.Failure
import Transclude.Proofs.Document.Frame

/-!
# Two documents, one behind the other

What a document is rendered to is decided line by line, and an old block reaches no further than
its closing fence.  So where one document ends, another one may begin: rendered together they give
what they give one after the other, in one session (`render_append`).

There is one way over the seam.  A directive in the last line takes a block in the first line of
what follows for its own (`Bridged`).

## Key results

- `rows_append`: the lines of both are the lines of the one and then those of the other
- `Scanned.append`: the scan passes the items of the first document and goes on in the second one
- `lineEvents_append_lines`: the calls for both are those for the one and then those for the other
- `render_append`: output, session, calls and error
-/

namespace Transclude

/-! ## Lines -/

namespace Text

/-- Only the end of a text is terminated. -/
private theorem terminated_append {cs ds : List Char} (h : ds ≠ []) :
    terminated (cs ++ ds) = cs ++ terminated ds := by
  have hlast : (cs ++ ds).getLast? = ds.getLast? := by
    rw [List.getLast?_append_of_ne_nil _ h]
  unfold terminated
  rw [hlast]
  split
  · rfl
  · rw [List.append_assoc]

/-- Behind a newline the lines of another text follow. -/
private theorem lines_append {a b : String} (ha : a.toList.getLast? = some '\n') (hb : b ≠ "") :
    lines (a ++ b) = lines a ++ lines b := by
  have hb' : b.toList ≠ [] := fun hnil => hb (String.toList_inj.1 hnil)
  have hterminated : terminated a.toList = a.toList := if_pos ha
  -- Both sides are the lines of the text with a final newline.
  have hunlines : String.ofList (terminated (a ++ b).toList) = unlines (lines a ++ lines b) := by
    rw [unlines_append, unlines_lines, unlines_lines, String.toList_append, terminated_append hb',
      String.ofList_append, hterminated]
  rw [← lines_terminated (a ++ b), hunlines]
  apply lines_unlines
  · exact List.append_ne_nil_of_left_ne_nil (lines_ne_nil a) _
  · intro line hline
    rcases List.mem_append.1 hline with hline | hline
    · exact newline_not_mem_of_mem_lines hline
    · exact newline_not_mem_of_mem_lines hline

/-- The lines of a text, of which the empty text has none. -/
def rows (s : String) : List String := if s.isEmpty then [] else lines s

/-- A text that is not empty has its lines as rows. -/
private theorem rows_of_ne_empty {s : String} (h : s ≠ "") : rows s = lines s := by
  rw [rows, if_neg (by simpa [String.isEmpty_iff] using h)]

/-- The lines of a text and another one behind it are those of the one and then those of the
    other, if a new line starts in between. -/
theorem rows_append {a : String} (ha : a = "" ∨ a.toList.getLast? = some '\n') (b : String) :
    rows (a ++ b) = rows a ++ rows b := by
  rcases ha with rfl | ha
  · rw [String.empty_append]
    rfl
  · have hne : a ≠ "" := by
      rintro rfl
      cases ha
    by_cases hb : b = ""
    · rw [hb, String.append_empty]
      exact (List.append_nil _).symm
    · have hboth : a ++ b ≠ "" := fun h => hne (String.append_eq_empty_iff.1 h).1
      rw [rows_of_ne_empty hboth, rows_of_ne_empty hne, rows_of_ne_empty hb, lines_append ha hb]

end Text

/-! ## Items -/

namespace Document

/-- A directive in the last line of `before` stands above a block in the first line of `behind`. -/
def Bridged (before behind : List String) : Prop :=
  ∃ line ∈ before.getLast?, Directive.marked line = true ∧
    ∃ first ∈ behind.head?, CodeBlock.opens first = true

/-- Lines in front make no difference to what the last one is. -/
theorem Bridged.append {before behind : List String} (h : Bridged before behind)
    (front : List String) : Bridged (front ++ before) behind := by
  obtain ⟨line, hline, hrest⟩ := h
  refine ⟨line, ?_, hrest⟩
  rw [List.getLast?_append, Option.mem_def.1 hline]
  rfl

/-- An old block stays as it is when more lines follow. -/
theorem OldBlock.append {line : String} {old behind more : List String} (h : OldBlock old behind)
    (hline : Directive.marked line = true) (hseam : ¬Bridged (line :: (old ++ behind)) more) :
    OldBlock old (behind ++ more) := by
  cases h with
  | fenced hfirst hinner hlast => exact .fenced hfirst hinner hlast
  | missing hfirst =>
    apply OldBlock.missing
    cases behind with
    | cons l ls => exact hfirst
    | nil =>
      -- The directive line is the last one.
      intro l hl
      cases hopens : CodeBlock.opens l with
      | false => rfl
      | true => exact absurd ⟨line, rfl, hline, l, hl, hopens⟩ hseam

/-- The scan passes the items of some lines and goes on in the lines behind them. -/
theorem Scanned.append {before behind rest : List String} {items more : List Item}
    (hitems : Itemized before items) (hmore : Scanned behind more rest)
    (hseam : ¬Bridged before behind) : Scanned (before ++ behind) (items ++ more) rest := by
  induction hitems with
  | nil => exact hmore
  | text hline _ ih => exact .text hline (ih fun h => hseam (h.append [_]))
  | @directive line old behind' items hline hold _ ih =>
    have hrest := ih fun h => hseam (h.append (line :: old))
    rw [List.cons_append, List.append_assoc]
    exact .directive hline (hold.append hline hseam) hrest

/-- Lines fall into items if the scan passes them all. -/
theorem scanned_nil_iff {lines : List String} {items : List Item} :
    Scanned lines items [] ↔ Itemized lines items := by
  constructor
  · intro h
    generalize hrest : ([] : List String) = rest at h
    induction h with
    | here => rw [← hrest]; exact .nil
    | text hline _ ih => exact .text hline (ih hrest)
    | directive hline hold _ ih => exact .directive hline hold (ih hrest)
  · intro h
    induction h with
    | nil => exact .here
    | text hline _ ih => exact .text hline ih
    | directive hline hold _ ih => exact .directive hline hold ih

/-- The items of two documents stand behind each other if no old block goes over the seam. -/
private theorem Itemized.append {before behind : List String} {items more : List Item}
    (hitems : Itemized before items) (hmore : Itemized behind more)
    (hseam : ¬Bridged before behind) : Itemized (before ++ behind) (items ++ more) :=
  scanned_nil_iff.1 (Scanned.append hitems (scanned_nil_iff.2 hmore) hseam)

end Document

/-! ## Sessions -/

/-- A failure with its line number increased. -/
def Failure.later (n : Nat) : Failure → Failure
  | .error problem context => .error problem { context with line := context.line.map (· + n) }
  | failure => failure

/-- Where a failure says no line itself, it says the one it gets. -/
theorem Failure.Unplaced.later_withContext {e : Failure} (h : e.Unplaced) (uri : Option String)
    (line : Int) (n : Nat) :
    (e.withContext ⟨uri, none, some line⟩).later n =
      e.withContext ⟨uri, none, some (line + n)⟩ := by
  cases e with
  | error problem context =>
    obtain ⟨-, hline⟩ := h
    simp [Failure.withContext, Failure.later, Context.or, hline]
  | fault f => rfl
  | stalled => rfl

namespace Processor

open Transclude.Document

variable {σ : Type} {p : Processor σ} {s s₁ t : Session σ}

/-- The items of two documents are filled one after the other. -/
private theorem fill_append {items more : List Item} {pieces rest : List Piece}
    (h : p.fill items s = .ok pieces s₁) (hmore : p.fill more s₁ = .ok rest t) :
    p.fill (items ++ more) s = .ok (pieces ++ rest) t := by
  induction items generalizing pieces s with
  | nil => cases h; exact hmore
  | cons item items ih =>
    cases item with
    | text line =>
      obtain ⟨tail, htail, rfl⟩ := fill_text_eq_ok_iff.1 h
      exact fill_text_eq_ok_iff.2 ⟨tail ++ rest, ih htail, rfl⟩
    | directive line old =>
      obtain ⟨d, code, u, tail, hd, hcode, hfits, htail, rfl⟩ := fill_directive_eq_ok_iff.1 h
      exact fill_directive_eq_ok_iff.2 ⟨d, code, u, tail ++ rest, hd, hcode, hfits, ih htail, rfl⟩

/-- Lines that fail, fail behind others, too. -/
theorem FailsAt.append {before behind : List String} {items more : List Item} {pieces : List Piece}
    {line : String} {rest : List String} {u : Session σ} {uri : Option String} {inner : Failure}
    (hitems : Itemized before items) (hfill : p.fill items s = .ok pieces s₁)
    (hseam : ¬Bridged before behind) (h : p.FailsAt behind s₁ more line rest u uri inner t) :
    p.FailsAt (before ++ behind) s (items ++ more) line rest u uri inner t := by
  obtain ⟨shown, hshown⟩ := h.filled
  exact ⟨Scanned.append hitems h.scanned hseam, h.marked, ⟨_, fill_append hfill hshown⟩, h.fails⟩

/-- What is called for some lines and others behind them is called for the ones and then for the
    others. -/
theorem lineEvents_append_lines {before behind : List String} {items : List Item}
    {pieces : List Piece} (hitems : Itemized before items) (hfill : p.fill items s = .ok pieces s₁)
    (hseam : ¬Bridged before behind) :
    p.lineEvents 0 (before ++ behind) s = p.lineEvents 0 before s ++ p.lineEvents 0 behind s₁ := by
  induction hitems generalizing pieces s with
  | nil => cases hfill; rfl
  | text hline _ ih =>
    obtain ⟨rest, hrest, rfl⟩ := fill_text_eq_ok_iff.1 hfill
    simp only [List.cons_append, lineEvents, hline, Bool.false_eq_true, if_false]
    exact ih hrest fun h => hseam (h.append [_])
  | @directive line old behind' items hline hold _ ih =>
    obtain ⟨d, code, u, rest, hd, hcode, hfits, hrest, rfl⟩ := fill_directive_eq_ok_iff.1 hfill
    have hbehind := ih hrest fun h => hseam (h.append (line :: old))
    -- The old block is the same with the lines of the second part behind it.
    have hsplice : ∀ more, OldBlock old more → p.splice line (old ++ more) s =
        .ok (CodeBlock.render line d.language code, old.length) u := fun more hmore =>
      splice_eq_ok_iff.2 ⟨d, code, hd, hcode, hfits, oldBlock_iff.1 hmore, rfl⟩
    have hold' := hold.append hline hseam
    simp only [List.cons_append, List.append_assoc, lineEvents, hline, if_true,
      hsplice _ hold, hsplice _ hold', lineEvents_append, hbehind]

/-! ## Documents -/

/-- A document is rendered by its rows. -/
private theorem render_eq_renderLines (document : String) :
    p.render document = p.renderLines 1 0 (Text.rows document) := by
  rw [render, Text.rows]
  split
  · rfl
  · rfl

/-- The events of a document are those of its rows. -/
private theorem renderEvents_eq_lineEvents (document : String) (s : Session σ) :
    p.renderEvents document s = p.lineEvents 0 (Text.rows document) s := by
  rw [renderEvents, Text.rows]
  split
  · rfl
  · rfl

/-- A document behind another one that ends in a newline renders as it does in the session that the
    first one leaves, with the output of the first one in front: the session that is left and the
    calls are those of one after the other, and a directive line that fails does so in the same way,
    with the number of a line that is later by the lines of the first document.  The only condition
    is that no block of the second document stands under a directive of the first one. -/
theorem render_append {a b out : String} (ha : a = "" ∨ a.toList.getLast? = some '\n')
    (hseam : ¬Bridged (Text.rows a) (Text.rows b)) (h : p.render a s = .ok out s₁) :
    (∀ more t, p.render b s₁ = .ok more t → p.render (a ++ b) s = .ok (out ++ more) t) ∧
      (∀ e t, p.render b s₁ = .error e t →
        (∃ items line rest u uri inner,
          p.FailsAt (Text.rows b) s₁ items line rest u uri inner t ∧
            let number : Int := ((items.flatMap Item.lines).length + 1 : Nat)
            e = inner.withContext ⟨uri, none, some number⟩ ∧
              p.render (a ++ b) s =
                .error (inner.withContext ⟨uri, none, some (number + (Text.rows a).length)⟩) t) ∧
          (p.Unplaced → p.render (a ++ b) s = .error (e.later (Text.rows a).length) t)) ∧
      p.renderEvents (a ++ b) s = p.renderEvents a s ++ p.renderEvents b s₁ := by
  simp only [renderEvents_eq_lineEvents, render_eq_renderLines, Text.rows_append ha] at h ⊢
  obtain ⟨items, pieces, hitems, hfill, rfl⟩ := exists_of_renderLines_eq_ok _ h
  refine ⟨fun more t hmore => ?_, fun e t he => ?_, lineEvents_append_lines hitems hfill hseam⟩
  · obtain ⟨items', pieces', hitems', hfill', rfl⟩ := exists_of_renderLines_eq_ok _ hmore
    rw [renderLines_eq_ok_of_fill (hitems.append hitems' hseam) (fill_append hfill hfill'),
      List.map_append, String.join_append]
  · obtain ⟨items', line, rest, u, uri, inner, hfails, rfl⟩ := exists_of_renderLines_eq_error _ he
    -- The line that fails is later by the lines of the first document.
    have hlength : ((1 + ((items ++ items').flatMap Item.lines).length : Nat) : Int) =
        ((items'.flatMap Item.lines).length + 1 : Nat) + ((Text.rows a).length : Int) := by
      rw [List.flatMap_append, List.length_append, hitems.flatMap_lines]
      omega
    have hrender := (hfails.append hitems hfill hseam).renderLines_eq 1
    rw [hlength] at hrender
    rw [Nat.add_comm 1]
    refine ⟨⟨items', line, rest, u, uri, inner, hfails, rfl, hrender⟩, fun hp => ?_⟩
    rw [hrender, (hp.fails hfails.fails).later_withContext]

/-- A processor that shows nothing. -/
def idle : Processor Unit := ⟨fun _ => none, []⟩

/-- A processor that does nothing knows of no document and no line. -/
private theorem unplaced_idle : idle.Unplaced where
  fetch := fun _ hmem => absurd hmem List.not_mem_nil
  extract := fun _ _ h => nomatch h
  restore := fun _ _ h => nomatch h

/-- A document with a block renders alike with a line behind it. -/
theorem render_append_sample :
    returnedDocument.toList.getLast? = some '\n' ∧
      ¬Bridged (Text.rows returnedDocument) (Text.rows "end") ∧
      sample.render returnedDocument ⟨{}, ()⟩ = .ok returnedOutput sampleSession ∧
      sample.render (returnedDocument ++ "end") ⟨{}, ()⟩ =
        .ok (returnedOutput ++ "end\n") sampleSession ∧
      ¬Bridged (Text.rows "t\n") (Text.rows sampleLine) ∧
      idle.render "t\n" ⟨{}, ()⟩ = .ok "t\n" ⟨{}, ()⟩ ∧
      idle.render ("t\n" ++ sampleLine) ⟨{}, ()⟩ = .error
        (.error (.noExtractor .yaml) { uri := some "a.file.n", line := some 2 }) ⟨{}, ()⟩ := by
  have hend : returnedDocument.toList.getLast? = some '\n' := by decide
  -- The line behind the block opens no fence.
  have hseam : ¬Bridged (Text.rows returnedDocument) (Text.rows "end") := by
    rintro ⟨-, -, -, first, hfirst, hopens⟩
    have hrows : Text.rows "end" = ["end"] := by decide
    rw [hrows] at hfirst
    cases hfirst
    revert hopens
    decide
  have hmore : sample.render "end" sampleSession = .ok "end\n" sampleSession := by rfl
  -- The line in front of the directive is none itself.
  have hseam' : ¬Bridged (Text.rows "t\n") (Text.rows sampleLine) := by
    rintro ⟨line, hline, hmarked, -⟩
    have hrows : Text.rows "t\n" = ["t"] := by decide
    rw [hrows] at hline
    cases hline
    revert hmarked
    decide
  have hidle : idle.render "t\n" ⟨{}, ()⟩ = .ok "t\n" ⟨{}, ()⟩ := rfl
  have hfails : idle.render sampleLine ⟨{}, ()⟩ = .error
      (.error (.noExtractor .yaml) { uri := some "a.file.n", line := some 1 }) ⟨{}, ()⟩ := rfl
  -- Behind a line of text the directive fails one line further down.
  have hlater := (render_append (.inr (by decide)) hseam' hidle).2.1 _ _ hfails
  exact ⟨hend, hseam, render_returnedDocument,
    (render_append (.inr hend) hseam render_returnedDocument).1 _ _ hmore, hseam', hidle,
    hlater.2 unplaced_idle⟩

end Processor

end Transclude
