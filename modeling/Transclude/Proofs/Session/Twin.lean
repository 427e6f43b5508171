import Transclude.Proofs.Document.Reprocess
import Transclude.Proofs.Session.Event

/-!
# Sessions side by side

Two sessions are twins if they have the same store and their worlds are related.  Where
the fetchers do the same in both worlds, so does everything else, and the sessions stay
twins (`alike_code`).  It is enough that the fetchers do so for the calls that the first
session makes, which are its events.

What the first session puts into a document the second one finds there already: it
renders the rendered document to itself (`exists_render_again`).
-/

namespace Transclude

open Transclude.Action (Alike)

variable {σ : Type}

/-- The sessions have the same store, in worlds that `R` relates. -/
structure Session.Twins (R : σ → σ → Prop) (s s' : Session σ) : Prop where
  store_eq : s'.store = s.store
  related : R s.world s'.world

variable {R : σ → σ → Prop} {Safe : Event → Prop} {s s' : Session σ}

namespace Resolver

variable {uri : String}

/-- Where calls are safe, the fetchers do the same in related worlds. -/
def Repeat (fetchers : List (Fetcher σ)) (R : σ → σ → Prop) (Safe : Event → Prop) : Prop :=
  ∀ store i uri fetcher w w', fetchers[i]? = some fetcher → R w w' →
    Safe (.ask store i uri (Action.outcome (fetcher uri w))) →
    Alike R (fetcher uri w) (fetcher uri w')

/-- Fetchers that do the same do so when they are asked in turn; those that are asked have numbers
    from `k` on. -/
theorem alike_fetchFrom {fetchers : List (Fetcher σ)} {store : Store} {k : Nat}
    {causes : List Failure} {w w' : σ}
    (h : ∀ i fetcher w w', fetchers[i]? = some fetcher → R w w' →
      Safe (.ask store (k + i) uri (Action.outcome (fetcher uri w))) →
      Alike R (fetcher uri w) (fetcher uri w'))
    (hsafe : ∀ e ∈ fetchEvents store uri k fetchers w, Safe e) (hw : R w w') :
    Alike R (fetchFrom uri causes fetchers w) (fetchFrom uri causes fetchers w') := by
  induction fetchers generalizing k causes w w' with
  | nil => exact .error hw
  | cons fetcher rest ih =>
    unfold fetchEvents at hsafe
    have hhead := h 0 fetcher w w' rfl hw (hsafe _ List.mem_cons_self)
    have htail := fun e he => hsafe e (List.mem_cons_of_mem _ he)
    unfold fetchFrom
    generalize fetcher uri w = r at hhead htail ⊢
    generalize fetcher uri w' = r' at hhead ⊢
    cases hhead with
    | ok ht => exact .ok ht
    | @error e t t' ht =>
      dsimp only at htail ⊢
      cases he : e.isFetch with
      | false => exact .error ht
      | true =>
        -- In both worlds the next fetcher is asked.
        simp only [he, if_true] at htail ⊢
        refine ih (fun i other t t' hother ht hsafe => ?_) htail ht
        have hnumber : k + 1 + i = k + (i + 1) := by omega
        rw [hnumber] at hsafe
        exact h (i + 1) other t t' hother ht hsafe

/-- Storing is alike in twins if producing is. -/
private theorem alike_derive {events : Session σ → List Event}
    {produce : Action (Session σ) ByteArray}
    (hproduce : (∀ e ∈ events s, Safe e) → Alike (Session.Twins R) (produce s) (produce s'))
    (hsafe : ∀ e ∈ deriveEvents uri events s, Safe e) (hs : s.Twins R s') :
    Alike (Session.Twins R) (derive uri produce s) (derive uri produce s') := by
  unfold deriveEvents at hsafe
  unfold derive
  -- The two stores are equal, so both sessions find it or neither does.
  rw [hs.store_eq]
  cases hlookup : lookup s.store uri with
  | error e => exact .error hs
  | ok found =>
    cases found with
    | some data => exact .ok hs
    | none =>
      rw [hlookup] at hsafe
      have halike := hproduce hsafe
      dsimp only
      generalize produce s = r at halike ⊢
      generalize produce s' = r' at halike ⊢
      cases halike with
      | ok ht => exact .ok ⟨congrArg (Store.store · uri _) ht.store_eq, ht.related⟩
      | error ht => exact .error ht

/-- Finding a source is alike in twins. -/
private theorem alike_resolve {fetchers : List (Fetcher σ)} (h : Repeat fetchers R Safe)
    (hsafe : ∀ e ∈ resolveEvents fetchers uri s, Safe e) (hs : s.Twins R s') :
    Alike (Session.Twins R) (resolve fetchers uri s) (resolve fetchers uri s') := by
  refine alike_derive (fun hsafe => ?_) hsafe hs
  have halike : Alike R (fetchFrom uri [] fetchers s.world)
    (fetchFrom uri [] fetchers s'.world) := by
    -- The same fetchers are asked in the same order.
    refine alike_fetchFrom (fun i fetcher w w' => ?_) hsafe hs.related
    rw [Nat.zero_add]
    exact h s.store i uri fetcher w w'
  unfold Session.outside Action.within
  generalize fetchFrom uri [] fetchers s.world = r at halike ⊢
  generalize fetchFrom uri [] fetchers s'.world = r' at halike ⊢
  cases halike with
  | ok ht => exact .ok ⟨hs.store_eq, ht⟩
  | error ht => exact .error ⟨hs.store_eq, ht⟩

end Resolver

namespace Processor

open Transclude.Document

variable {p : Processor σ} {d : Directive} (h : Resolver.Repeat p.fetchers R Safe)
include h

/-- Cutting out an excerpt is alike in twins. -/
private theorem alike_excerpt {extractor : Extractor}
    (hsafe : ∀ e ∈ p.excerptEvents extractor d s, Safe e) (hs : s.Twins R s') :
    Alike (Session.Twins R) (p.excerpt extractor d s) (p.excerpt extractor d s') := by
  have hresolve := Resolver.alike_resolve h
    (fun e he => hsafe e (List.mem_append_left _ he)) hs
  exact hresolve.bind fun _ ht => (Alike.ofExcept _ ht).bind fun _ hu =>
    (Alike.ofExcept _ hu).bind fun _ hv => .ok hv

/-- A directive shows the same in both sessions. -/
theorem alike_code (hsafe : ∀ e ∈ p.snippetEvents d s, Safe e) (hs : s.Twins R s') :
    Alike (Session.Twins R) (p.code d s) (p.code d s') := by
  unfold Processor.code
  refine Alike.bind ?_ fun _ ht => .ofExcept _ ht
  unfold snippetEvents at hsafe
  unfold Processor.snippet
  -- The directive is refused in both sessions or in neither.
  cases hextractor : p.extractors d.language with
  | none => exact .error hs
  | some extractor =>
    rw [hextractor] at hsafe
    cases hsupports : d.language.supports d.kind with
    | false => exact .error hs
    | true =>
      simp only [hsupports, if_true] at hsafe ⊢
      refine (Resolver.alike_derive (fun hsafe => alike_excerpt h hsafe hs) hsafe hs).bind ?_
      exact fun _ ht => (Alike.ofExcept _ ht).bind fun _ hu => .ofExcept _ hu

omit h in

/-- Nothing happens in an old block that is passed over. -/
theorem lineEvents_append (old behind : List String) (s : Session σ) :
    p.lineEvents old.length (old ++ behind) s = p.lineEvents 0 behind s := by
  induction old with
  | nil => rfl
  | cons line old ih => exact ih

/-- The items of a document are filled with the same in both sessions. -/
theorem exists_fill {lines : List String} {items : List Item} {pieces : List Piece} {t : Session σ}
    (hitems : Itemized lines items) (hfill : p.fill items s = .ok pieces t)
    (hsafe : ∀ e ∈ p.lineEvents 0 lines s, Safe e) (hs : s.Twins R s') :
    ∃ t', p.fill items s' = .ok pieces t' ∧ t.Twins R t' := by
  induction hitems generalizing pieces s s' with
  | nil =>
    cases hfill
    exact ⟨s', rfl, hs⟩
  | text hline _ ih =>
    obtain ⟨rest, hrest, rfl⟩ := fill_text_eq_ok_iff.1 hfill
    simp only [lineEvents, hline, Bool.false_eq_true, if_false] at hsafe
    obtain ⟨t', ht', htwins⟩ := ih hrest hsafe hs
    exact ⟨t', fill_text_eq_ok_iff.2 ⟨rest, ht', rfl⟩, htwins⟩
  | @directive line old behind items hline hold _ ih =>
    obtain ⟨d, code, u, rest, hd, hcode, hfits, hrest, rfl⟩ := fill_directive_eq_ok_iff.1 hfill
    -- The events of the directive come before those of the lines behind its old block.
    have hsplice : p.splice line (old ++ behind) s =
        .ok (CodeBlock.render line d.language code, old.length) u :=
      splice_eq_ok_iff.2 ⟨d, code, hd, hcode, hfits, oldBlock_iff.1 hold, rfl⟩
    simp only [lineEvents, hline, if_true, spliceEvents, hd, hsplice, lineEvents_append] at hsafe
    obtain ⟨u', hcode', hu⟩ := (alike_code h
      (fun e he => hsafe e (List.mem_append_left _ he)) hs).exists_ok hcode
    obtain ⟨t', hrest', htwins⟩ := ih hrest (fun e he => hsafe e (List.mem_append_right _ he)) hu
    exact ⟨t', fill_directive_eq_ok_iff.2 ⟨d, code, u', rest, hd, hcode', hfits, hrest', rfl⟩,
      htwins⟩

/-- What one session makes of a document, the other one leaves as it is. -/
theorem exists_render_again {document out : String} {t : Session σ}
    (hrender : p.render document s = .ok out t)
    (hcode : ∀ code, p.Splices document s code → CodeBlock.Unfenced code)
    (hsafe : ∀ e ∈ p.renderEvents document s, Safe e) (hs : s.Twins R s') :
    ∃ t', p.render out s' = .ok out t' ∧ t.Twins R t' := by
  by_cases hdocument : document = ""
  · subst hdocument
    cases hrender
    exact ⟨s', rfl, hs⟩
  -- What was written renders to itself, with the pieces the first session has filled in.
  · obtain ⟨items, pieces, hitems, hfill, rfl⟩ := (render_eq_ok_iff hdocument).1 hrender
    have hne : document.isEmpty = false := by
      rw [Bool.eq_false_iff, ne_eq, String.isEmpty_iff]
      exact hdocument
    simp only [renderEvents, hne, Bool.false_eq_true, if_false] at hsafe
    obtain ⟨t', hfill', htwins⟩ := exists_fill h hitems hfill hsafe hs
    obtain ⟨hout, hagain⟩ := itemized_written hitems hfill fun code hmem =>
      hcode code ⟨items, pieces, t, hitems, hfill, hmem⟩
    rw [← fill_item hfill] at hfill'
    exact ⟨t', (render_eq_ok_iff hout).2 ⟨_, pieces, hagain, hfill', rfl⟩, htwins⟩

end Processor

end Transclude
