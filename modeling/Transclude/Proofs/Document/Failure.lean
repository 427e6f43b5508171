import Transclude.Proofs.Directive.Grammar
import Transclude.Proofs.Document.Splice
import Transclude.Proofs.Session.Place
import Transclude.Proofs.Session.Twin

/-!
# Where a document fails

A document fails at the first directive line that does (`render_eq_error_iff`): the scan has passed
items that have all been filled, and comes to a directive line that cannot be read, shows no code,
or stands above a block without an end (`Fails`).  `FailsAt` says this of the lines of a document
as they are, and nothing is called for the lines behind (`FailsAt.lineEvents_eq`).

The error is the one of that line, with the number of the line and the locator of its excerpt where
it does not say them itself (`Locates`).
-/

namespace Transclude

/-! ## Contexts -/

namespace Failure

/-- Context is added around what is there already. -/
private theorem withContext_withContext (e : Failure) (inner outer : Context) :
    (e.withContext inner).withContext outer = e.withContext (inner.or outer) := by
  cases e with
  | error problem context => simp [withContext, Context.or, Option.or_assoc]
  | fault f => rfl
  | stalled => rfl

/-- Nothing is added by an empty context. -/
@[simp] theorem withContext_empty (e : Failure) : e.withContext {} = e := by
  cases e with
  | error problem context => simp [withContext, Context.or]
  | fault f => rfl
  | stalled => rfl

end Failure

namespace Document

/-! ## The scan -/

/-- The scan has passed the items when it comes to the lines `rest`. -/
inductive Scanned : List String → List Item → List String → Prop where
  | here {rest : List String} : Scanned rest [] rest
  | text {line : String} {behind rest : List String} {items : List Item}
    (hline : Directive.marked line = false) (hbehind : Scanned behind items rest) :
    Scanned (line :: behind) (.text line :: items) rest
  | directive {line : String} {old behind rest : List String} {items : List Item}
    (hline : Directive.marked line = true) (hold : OldBlock old behind)
    (hbehind : Scanned behind items rest) :
    Scanned (line :: (old ++ behind)) (.directive line old :: items) rest

/-- The lines passed and those that are left are all lines. -/
theorem Scanned.flatMap_lines_append {lines rest : List String} {items : List Item}
    (h : Scanned lines items rest) : items.flatMap Item.lines ++ rest = lines := by
  induction h with
  | here => rfl
  | text _ _ ih => rw [List.flatMap_cons, List.append_assoc, ih]; rfl
  | directive _ _ _ ih => rw [List.flatMap_cons, List.append_assoc, ih]; rfl

/-- A line of text is one line. -/
private theorem length_lines_text (line : String) (items : List Item) :
    ((Item.text line :: items).flatMap Item.lines).length =
      1 + (items.flatMap Item.lines).length := by
  rw [List.flatMap_cons, List.length_append]
  rfl

/-- A directive is one line, and its old block stands under it. -/
private theorem length_lines_directive (line : String) (old : List String) (items : List Item) :
    ((Item.directive line old :: items).flatMap Item.lines).length =
      1 + old.length + (items.flatMap Item.lines).length := by
  rw [List.flatMap_cons, List.length_append, Item.lines, List.length_cons, Nat.add_comm 1]

end Document

namespace Processor

open Transclude.Document

variable {σ : Type} {p : Processor σ} {s s' : Session σ}

/-! ## Directives that fail -/

/-- A directive line fails in a session, with the lines `rest` behind it: the locator of its excerpt
    if it has one, the failure, and the session that is left. -/
inductive Fails (p : Processor σ) (line : String) (rest : List String) (s : Session σ) :
    Option String → Failure → Session σ → Prop where
  | parse {e : Failure} (h : Directive.parse line = .error e) : Fails p line rest s none e s
  | code {d : Directive} {e : Failure} {s' : Session σ} (hd : Directive.parse line = .ok d)
    (h : p.code d s = .error e s') : Fails p line rest s (some d.snippetUri) e s'
  | write {d : Directive} {code : String} {s' : Session σ} (hd : Directive.parse line = .ok d)
    (hcode : p.code d s = .ok code s') (h : CodeBlock.fits line = false) :
    Fails p line rest s (some d.snippetUri) (.fault Fault.tooDeepInCall) s'
  | block {d : Directive} {code : String} {s' : Session σ} (hd : Directive.parse line = .ok d)
    (hcode : p.code d s = .ok code s') (hfits : CodeBlock.fits line = true)
    (h : CodeBlock.length? rest = none) :
    Fails p line rest s (some d.snippetUri) (.about d.snippetUri .unterminatedBlock) s'

/-- A block fails if the code is not found or the line has too many carriage returns. -/
private theorem block_eq_error_iff {line : String} {rest : List String}
    {d : Directive} {e : Failure} :
    p.block line rest d s = .error e s' ↔
      p.code d s = .error e s' ∨
        ∃ code, p.code d s = .ok code s' ∧
          ((CodeBlock.fits line = false ∧ e = .fault Fault.tooDeepInCall) ∨
            (CodeBlock.fits line = true ∧ CodeBlock.length? rest = none ∧
              e = .about d.snippetUri .unterminatedBlock)) := by
  -- Skipping starts behind the line itself.
  have hskip : CodeBlock.skip rest 0 d.snippetUri = .error e ↔
      CodeBlock.length? rest = none ∧ e = .about d.snippetUri .unterminatedBlock := by
    unfold CodeBlock.skip
    rw [List.drop_zero]
    cases CodeBlock.length? rest <;> simp [eq_comm]
  simp only [block, Action.bind_eq_error_iff, Action.ofExcept_eq_error_iff,
    Action.ofExcept_eq_ok_iff, CodeBlock.write_eq_ok_iff, CodeBlock.write_eq_error_iff, hskip]
  constructor
  -- The code may fail, the block may not be written, and the old block may have no end.
  · rintro (hcode | ⟨code, t, hcode, ⟨hwrite, rfl⟩ |
      ⟨_, _, ⟨⟨hfits, -⟩, rfl⟩, ⟨⟨hnone, rfl⟩, rfl⟩ | ⟨_, _, -, h⟩⟩⟩)
    · exact .inl hcode
    · exact .inr ⟨code, hcode, .inl hwrite⟩
    · exact .inr ⟨code, hcode, .inr ⟨hfits, hnone, rfl⟩⟩
    · cases h
  · rintro (hcode | ⟨code, hcode, hwrite | ⟨hfits, hnone, rfl⟩⟩)
    · exact .inl hcode
    · exact .inr ⟨code, s', hcode, .inl ⟨hwrite, rfl⟩⟩
    · exact .inr ⟨code, s', hcode, .inr ⟨_, s', ⟨⟨hfits, rfl⟩, rfl⟩, .inl ⟨⟨hnone, rfl⟩, rfl⟩⟩⟩

/-- A directive line fails as one of its steps does, and the failure says the locator of the excerpt
    if there is one. -/
theorem splice_eq_error_iff {line : String} {rest : List String} {e : Failure} :
    p.splice line rest s = .error e s' ↔
      ∃ uri inner, Fails p line rest s uri inner s' ∧ e = inner.withContext { uri } := by
  unfold splice
  cases hparse : Directive.parse line with
  | error e' =>
    -- A line that is not understood has no key yet.
    constructor
    · intro h
      cases h
      exact ⟨none, e, .parse hparse, (Failure.withContext_empty e).symm⟩
    · rintro ⟨uri, inner, hfails, rfl⟩
      cases hfails with
      | parse h =>
        rw [hparse] at h
        cases h
        rw [Failure.withContext_empty]
        rfl
      | code hd | write hd | block hd => rw [hparse] at hd; cases hd
  | ok d =>
    rw [Action.withContext_eq_error_iff]
    constructor
    · rintro ⟨inner, hblock, rfl⟩
      -- Behind the line, the three ways for a block to fail.
      rcases block_eq_error_iff.1 hblock with
        hcode | ⟨code, hcode, ⟨hfits, rfl⟩ | ⟨hfits, hnone, rfl⟩⟩
      · exact ⟨_, _, .code hparse hcode, rfl⟩
      · exact ⟨_, _, .write hparse hcode hfits, rfl⟩
      · exact ⟨_, _, .block hparse hcode hfits hnone, rfl⟩
    · rintro ⟨uri, inner, hfails, rfl⟩
      cases hfails with
      | parse h => rw [hparse] at h; cases h
      | code hd h =>
        rw [hparse] at hd
        cases hd
        exact ⟨_, block_eq_error_iff.2 (.inl h), rfl⟩
      | write hd hcode h =>
        rw [hparse] at hd
        cases hd
        exact ⟨_, block_eq_error_iff.2 (.inr ⟨_, hcode, .inl ⟨h, rfl⟩⟩), rfl⟩
      | block hd hcode hfits h =>
        rw [hparse] at hd
        cases hd
        exact ⟨_, block_eq_error_iff.2 (.inr ⟨_, hcode, .inr ⟨hfits, h, rfl⟩⟩), rfl⟩

/-! ## Documents that fail -/

/-- The scan of some lines passes the items, all of which are filled, and comes in the session `t`
    to a directive line that fails. -/
structure FailsAt (p : Processor σ) (lines : List String) (s : Session σ) (items : List Item)
    (line : String) (rest : List String) (t : Session σ) (uri : Option String) (inner : Failure)
    (s' : Session σ) : Prop where
  scanned : Scanned lines items (line :: rest)
  marked : Directive.marked line = true
  filled : ∃ pieces, p.fill items s = .ok pieces t
  fails : Fails p line rest t uri inner s'

/-- Lines fail at the first directive line that does, and the number is that of this line. -/
theorem exists_of_renderLines_eq_error (lines : List String) {number : Nat} {e : Failure}
    {s s' : Session σ} (h : p.renderLines number 0 lines s = .error e s') :
    ∃ items line rest t uri inner, p.FailsAt lines s items line rest t uri inner s' ∧
      e = inner.withContext
        ⟨uri, none, some ((number + (items.flatMap Item.lines).length : Nat) : Int)⟩ := by
  match lines with
  | [] => cases h
  | line :: rest =>
    cases hline : Directive.marked line with
    | false =>
      -- The line is kept, so something behind it fails.
      rw [renderLines_text hline, Action.bind_eq_error_iff] at h
      rcases h with h | ⟨_, _, -, h⟩
      · obtain ⟨items, first, behind, t, uri, inner, hfails, rfl⟩ :=
          exists_of_renderLines_eq_error rest h
        obtain ⟨pieces, hfill⟩ := hfails.filled
        refine ⟨.text line :: items, first, behind, t, uri, inner,
          ⟨.text hline hfails.scanned, hfails.marked,
            ⟨_, fill_text_eq_ok_iff.2 ⟨pieces, hfill, rfl⟩⟩, hfails.fails⟩, ?_⟩
        -- The line itself is counted as one.
        rw [length_lines_text, Nat.add_assoc]
      · cases h
    | true =>
      rw [renderLines_directive hline, Action.bind_eq_error_iff] at h
      rcases h with h | ⟨⟨block, old⟩, t, hsplice, h⟩
      · -- This is the line that fails.
        obtain ⟨_, hsplice, rfl⟩ := Action.withContext_eq_error_iff.1 h
        obtain ⟨uri, inner, hfails, rfl⟩ := splice_eq_error_iff.1 hsplice
        refine ⟨[], line, rest, s, uri, inner, ⟨.here, hline, ⟨[], rfl⟩, hfails⟩, ?_⟩
        rw [Failure.withContext_withContext]
        simp [Context.or]
      · rw [Action.withContext_eq_ok_iff, splice_eq_ok_iff] at hsplice
        obtain ⟨d, code, hd, hcode, hfits, hold, rfl⟩ := hsplice
        -- The line is written, so something behind its old block fails.
        rcases Action.bind_eq_error_iff.1 h with h | ⟨_, _, -, h⟩
        · have hlt : (rest.drop old).length < (line :: rest).length := by
            rw [List.length_drop, List.length_cons]
            omega
          obtain ⟨items, first, behind, t', uri, inner, hfails, rfl⟩ :=
            exists_of_renderLines_eq_error (rest.drop old) h
          obtain ⟨pieces, hfill⟩ := hfails.filled
          -- The lines passed over are the old block.
          have hle : old ≤ rest.length := CodeBlock.le_length_of_length? hold
          have hblock : OldBlock (rest.take old) (rest.drop old) := by
            rw [oldBlock_iff, List.take_append_drop, List.length_take_of_le hle, hold]
          have hscanned := Scanned.directive hline hblock hfails.scanned
          rw [List.take_append_drop] at hscanned
          refine ⟨.directive line (rest.take old) :: items, first, behind, t', uri, inner,
            ⟨hscanned, hfails.marked,
              ⟨_, fill_directive_eq_ok_iff.2 ⟨d, code, t, pieces, hd, hcode, hfits, hfill, rfl⟩⟩,
              hfails.fails⟩, ?_⟩
          rw [length_lines_directive, List.length_take_of_le hle, Nat.add_assoc, Nat.add_assoc,
            Nat.add_assoc]
        · cases h
termination_by lines.length

/-- Where items are filled up to a line that fails, the lines fail there. -/
theorem FailsAt.renderLines_eq {lines : List String} {items : List Item} {line : String}
    {rest : List String} {t : Session σ} {uri : Option String} {inner : Failure}
    (h : p.FailsAt lines s items line rest t uri inner s') (number : Nat) :
    p.renderLines number 0 lines s = .error (inner.withContext
      ⟨uri, none, some ((number + (items.flatMap Item.lines).length : Nat) : Int)⟩) s' := by
  obtain ⟨hscanned, hmarked, ⟨pieces, hfill⟩, hfails⟩ := h
  -- The induction is on the lines up to the one that fails, which stays fixed.
  generalize hbehind : line :: rest = behind at hscanned
  induction hscanned generalizing pieces s number with
  | here =>
    subst hbehind
    cases hfill
    -- Nothing was filled before this line, and its number is the first one.
    rw [renderLines_directive hmarked, Action.bind_eq_error_iff]
    refine .inl (Action.withContext_eq_error_iff.2
      ⟨_, splice_eq_error_iff.2 ⟨uri, inner, hfails, rfl⟩, ?_⟩)
    rw [Failure.withContext_withContext]
    simp [Context.or]
  | text hline _ ih =>
    obtain ⟨more, hmore, rfl⟩ := fill_text_eq_ok_iff.1 hfill
    rw [renderLines_text hline, Action.bind_eq_error_iff]
    refine .inl ((ih (number + 1) more hmore hbehind).trans ?_)
    rw [length_lines_text, Nat.add_assoc]
  | @directive first old behind rest' items hline hold _ ih =>
    obtain ⟨d, code, u, more, hd, hcode, hfits, hmore, rfl⟩ := fill_directive_eq_ok_iff.1 hfill
    rw [renderLines_directive hline, Action.bind_eq_error_iff]
    -- The directive is written and its old block passed over, and the rest fails later.
    refine .inr ⟨(CodeBlock.render first d.language code, old.length), u, ?_, ?_⟩
    · rw [Action.withContext_eq_ok_iff, splice_eq_ok_iff]
      exact ⟨d, code, hd, hcode, hfits, oldBlock_iff.1 hold, rfl⟩
    · dsimp only
      rw [List.drop_left, Action.bind_eq_error_iff]
      refine .inl ((ih (number + 1 + old.length) more hmore hbehind).trans ?_)
      rw [length_lines_directive, Nat.add_assoc, Nat.add_assoc, Nat.add_assoc]

/-! ## Calls of a document that fails -/

/-- The events of `fill`. -/
def fillEvents (p : Processor σ) : List Item → Session σ → List Event
  | [], _ => []
  | .text _ :: items, s => p.fillEvents items s
  | .directive line _ :: items, s =>
    match Directive.parse line with
    | .error _ => []
    | .ok d =>
      p.snippetEvents d s ++
        match p.code d s with
        | .ok _ t => p.fillEvents items t
        | .error _ _ => []

/-- Nothing is called for the lines behind one that fails. -/
theorem FailsAt.lineEvents_eq {lines : List String} {items : List Item} {line : String}
    {rest : List String} {t : Session σ} {uri : Option String} {inner : Failure}
    (h : p.FailsAt lines s items line rest t uri inner s') :
    p.lineEvents 0 lines s = p.fillEvents items s ++ p.spliceEvents line t := by
  obtain ⟨hscanned, hmarked, ⟨pieces, hfill⟩, hfails⟩ := h
  generalize hbehind : line :: rest = behind at hscanned
  -- Again along the lines in front of the one that fails.
  induction hscanned generalizing pieces s with
  | here =>
    subst hbehind
    cases hfill
    have hsplice := splice_eq_error_iff.2 ⟨uri, inner, hfails, rfl⟩
    simp only [lineEvents, hmarked, if_true, hsplice, fillEvents, List.append_nil, List.nil_append]
  | text hline _ ih =>
    obtain ⟨more, hmore, rfl⟩ := fill_text_eq_ok_iff.1 hfill
    simp only [lineEvents, hline, Bool.false_eq_true, if_false, fillEvents]
    exact ih more hmore hbehind
  | @directive first old behind rest' items hline hold _ ih =>
    obtain ⟨d, code, u, more, hd, hcode, hfits, hmore, rfl⟩ := fill_directive_eq_ok_iff.1 hfill
    have hsplice : p.splice first (old ++ behind) s =
        .ok (CodeBlock.render first d.language code, old.length) u :=
      splice_eq_ok_iff.2 ⟨d, code, hd, hcode, hfits, oldBlock_iff.1 hold, rfl⟩
    -- What happens for the line is what happens for its excerpt.
    have hevents : p.spliceEvents first s = p.snippetEvents d s := by rw [spliceEvents, hd]
    simp only [lineEvents, hline, if_true, hevents, hsplice, lineEvents_append, fillEvents, hd,
      hcode, List.append_assoc]
    rw [ih more hmore hbehind]

/-! ## What an error points at -/

/-- What goes wrong inside of a line knows of no document and no line. -/
theorem Unplaced.fails (h : p.Unplaced) {line : String} {rest : List String} {s s' : Session σ}
    {uri : Option String} {e : Failure} (hfails : p.Fails line rest s uri e s') : e.Unplaced := by
  cases hfails with
  | parse hparse =>
    obtain ⟨problem, rfl, -⟩ := Directive.refuses_parse line e hparse
    exact Failure.unplaced_of problem
  | code hd hcode => exact h.code _ _ _ _ hcode
  | write => exact trivial
  | block => exact Failure.unplaced_about _ _

/-- Only a directive line that cannot be read fails without a locator. -/
theorem Fails.uri_eq_none_iff {line : String} {rest : List String} {s s' : Session σ}
    {uri : Option String} {problem : Problem Failure} {inner : Context}
    (h : p.Fails line rest s uri (.error problem inner) s') :
    inner.uri.or uri = none ↔ ∃ e, Directive.parse line = .error e := by
  -- Once the line is read, the error has the key of the excerpt.
  have hread : ∀ {d : Directive}, Directive.parse line = .ok d →
      ((inner.uri.or (some d.snippetUri) = none) ↔ ∃ e, Directive.parse line = .error e) := by
    intro d hd
    simp [hd]
  cases h with
  | parse hparse =>
    obtain ⟨_, he, -⟩ := Directive.refuses_parse line _ hparse
    cases he
    exact ⟨fun _ => ⟨_, hparse⟩, fun _ => rfl⟩
  | code hd => exact hread hd
  | block hd => exact hread hd

/-- A document fails where its lines do, and with the number of the line that does. -/
theorem render_eq_error_iff {document : String} {s s' : Session σ} {e : Failure} :
    p.render document s = .error e s' ↔
      ∃ items line rest t uri inner,
        p.FailsAt (Text.lines document) s items line rest t uri inner s' ∧
          e = inner.withContext
            ⟨uri, none, some ((1 + (items.flatMap Item.lines).length : Nat) : Int)⟩ := by
  have hlines : p.renderLines 1 0 (Text.lines document) s = .error e s' ↔
      ∃ items line rest t uri inner,
        p.FailsAt (Text.lines document) s items line rest t uri inner s' ∧
          e = inner.withContext
            ⟨uri, none, some ((1 + (items.flatMap Item.lines).length : Nat) : Int)⟩ := by
    -- A line that fails is found from the first line on, and the other way around.
    refine ⟨exists_of_renderLines_eq_error _, ?_⟩
    rintro ⟨items, line, rest, t, uri, inner, hfails, rfl⟩
    exact hfails.renderLines_eq 1
  rw [← hlines, render]
  by_cases hempty : document = ""
  · -- The only line of an empty document is no directive.
    subst hempty
    constructor
    · intro h; cases h
    · intro h; cases h
  · rw [if_neg (by simpa using hempty)]

/-- What the context of an error says, if the directive line `line` has failed with the context
    `inner`, and what has been called before. -/
structure Locates (p : Processor σ) (document : String) (s : Session σ) (items : List Item)
    (line : String) (t : Session σ) (uri : Option String) (inner context : Context) : Prop where
  /-- The line stands behind those of the items. -/
  getElem?_eq : (Text.lines document)[(items.flatMap Item.lines).length]? = some line
  /-- The error says the number of this line, where it does not say one itself. -/
  line_eq : context.line =
    inner.line.or (some (((items.flatMap Item.lines).length + 1 : Nat) : Int))
  /-- The error says the locator of the excerpt, where it does not say one itself. -/
  uri_eq : context.uri = inner.uri.or uri
  /-- Only a line that is not even a directive has no locator. -/
  uri_eq_none_iff : context.uri = none ↔ ∃ e, Directive.parse line = .error e
  path_eq : context.path = inner.path
  /-- Errors that say nothing about a place get the number of the line, and no file. -/
  of_unplaced : p.Unplaced →
    context.line = some (((items.flatMap Item.lines).length + 1 : Nat) : Int) ∧ context.path = none
  /-- Only the directives up to the line have called for anything. -/
  events_eq : p.renderEvents document s = p.fillEvents items s ++ p.spliceEvents line t

/-- An error of a document points at the first directive line that fails. -/
theorem exists_locates {document : String} {s s' : Session σ} {problem : Problem Failure}
    {context : Context} (h : p.render document s = .error (.error problem context) s') :
    ∃ items line rest t uri inner,
      p.FailsAt (Text.lines document) s items line rest t uri (.error problem inner) s' ∧
        p.Locates document s items line t uri inner context := by
  obtain ⟨items, line, rest, t, uri, e, hfails, he⟩ := render_eq_error_iff.1 h
  cases e with
  | fault f => cases he
  | stalled => cases he
  | error problem' inner =>
    cases he
    -- The lines in front are those of the items, so their number is that of the lines.
    have hlines := hfails.scanned.flatMap_lines_append
    have hevents : p.renderEvents document s = p.lineEvents 0 (Text.lines document) s := by
      unfold renderEvents
      split
      · rename_i hempty
        rw [String.isEmpty_iff.1 hempty]
        rfl
      · rfl
    refine ⟨items, line, rest, t, uri, inner, hfails, ?_, ?_, rfl, hfails.fails.uri_eq_none_iff,
      Option.or_none, fun hp => ?_, ?_⟩
    · rw [← hlines, List.getElem?_append_right (Nat.le_refl _), Nat.sub_self]
      rfl
    · rw [Nat.add_comm]
      rfl
    · obtain ⟨hpath, hline⟩ := hp.fails hfails.fails
      simp [Context.or, hpath, hline, Nat.add_comm]
    · rw [hevents, hfails.lineEvents_eq]

end Processor

end Transclude
