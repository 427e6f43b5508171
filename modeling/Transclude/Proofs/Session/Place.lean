import Transclude.Document
import Transclude.Proofs.Action
import Transclude.Proofs.Snippet.Window

/-!
# Errors that say nothing about a place

Where an error occurs in a document is for the document to say: as long as fetchers and extractors
do not say it (`Processor.Unplaced`), nothing between them and the document does
(`Processor.Unplaced.code`).
-/

namespace Transclude

/-- An error that says neither in which file nor on which line it is. -/
def Failure.Unplaced : Failure → Prop
  | .error _ context => context.path = none ∧ context.line = none
  | .fault _ | .stalled => True

/-- An error has no place at first. -/
theorem Failure.unplaced_of (problem : Problem Failure) : (Failure.of problem).Unplaced :=
  ⟨rfl, rfl⟩

/-- An error about a source has no place at first. -/
theorem Failure.unplaced_about (uri : String) (problem : Problem Failure) :
    (Failure.about uri problem).Unplaced := ⟨rfl, rfl⟩

variable {σ α β : Type}

/-- Every error that there may be says neither in which file nor on which line it is. -/
def UnplacedErrors (r : Except Failure α) : Prop := ∀ e, r = .error e → e.Unplaced

namespace UnplacedErrors

/-- What succeeds has no place. -/
theorem ok (x : α) : UnplacedErrors (.ok x) := fun e he => by cases he

/-- An error without a place has none. -/
theorem error {e : Failure} (h : e.Unplaced) : UnplacedErrors (.error e : Except Failure α) := by
  intro e' he'
  cases he'
  exact h

/-- Steps whose errors have no place can be made after each other. -/
theorem bind {r : Except Failure α} (h : UnplacedErrors r) {f : α → Except Failure β}
    (hf : ∀ x, UnplacedErrors (f x)) : UnplacedErrors (r >>= f) := by
  intro e he
  cases r with
  | ok x => exact hf x e he
  | error e' =>
    cases he
    exact h e rfl

end UnplacedErrors

/-- No error of the action says in which file or on which line it is. -/
def Action.Unplaced (a : Action σ α) : Prop := ∀ s e s', a s = .error e s' → e.Unplaced

namespace Action.Unplaced

/-- A result whose errors have no place may be taken as an action. -/
theorem ofExcept {r : Except Failure α} (h : UnplacedErrors r) :
    Unplaced (Action.ofExcept r : Action σ α) :=
  fun _ _ _ he => h _ (Action.ofExcept_eq_error_iff.1 he).1

/-- Actions whose errors have no place can be run after each other. -/
theorem bind {a : Action σ α} {f : α → Action σ β} (ha : a.Unplaced)
    (hf : ∀ x, (f x).Unplaced) :
    (a >>= f).Unplaced := by
  intro s e s' he
  rcases Action.bind_eq_error_iff.1 he with he | ⟨x, t, -, he⟩
  · exact ha s e s' he
  · exact hf x t e s' he

/-- Storing what is produced adds no place. -/
theorem derive {produce : Action (Session σ) ByteArray}
    (h : produce.Unplaced) (uri : String) :
    Unplaced (Resolver.derive uri produce) := by
  intro s e s' he
  unfold Resolver.derive at he
  -- A broken store gives an error that names no place, and a value is no error.
  cases hlookup : Resolver.lookup s.store uri with
  | error e' =>
    rw [hlookup] at he
    cases he
    unfold Resolver.lookup at hlookup
    split at hlookup
    · cases hlookup
    · split at hlookup
      · cases hlookup
      · cases hlookup
        exact Failure.unplaced_about _ _
  | ok found =>
    rw [hlookup] at he
    cases found with
    | some data => cases he
    | none =>
      cases hr : produce s with
      | ok data t => rw [hr] at he; cases he
      | error e' t =>
        rw [hr] at he
        cases he
        exact h _ _ _ hr

end Action.Unplaced

/-- Asking fetchers adds no place. -/
private theorem Resolver.unplaced_fetchFrom {fetchers : List (Fetcher σ)}
    (h : ∀ fetcher ∈ fetchers, ∀ uri, (fetcher uri).Unplaced) (uri : String)
    (causes : List Failure) : (fetchFrom uri causes fetchers).Unplaced := by
  induction fetchers generalizing causes with
  | nil =>
    intro w e w' he
    cases he
    exact Failure.unplaced_about _ _
  | cons fetcher rest ih =>
    -- The first fetcher fails for good, or the ones behind it are asked.
    intro w e w' he
    unfold fetchFrom at he
    cases hr : fetcher uri w with
    | ok data u => rw [hr] at he; cases he
    | error e' u =>
      rw [hr] at he
      dsimp only at he
      split at he
      · exact ih (fun f hf => h f (List.mem_cons_of_mem _ hf)) _ u e w' he
      · cases he
        exact h fetcher List.mem_cons_self uri w e w' hr

namespace Processor

variable {p : Processor σ}

/-- No error of the fetchers and extractors says in which file or on which line it is. -/
structure Unplaced (p : Processor σ) : Prop where
  fetch : ∀ fetcher ∈ p.fetchers, ∀ uri, (fetcher uri).Unplaced
  extract : ∀ l extractor, p.extractors l = some extractor → ∀ source name kind e,
    extractor.extract source name kind = .error e → e.Unplaced
  restore : ∀ l extractor, p.extractors l = some extractor → ∀ name kind text e,
    extractor.restore name kind text = .error e → e.Unplaced

/-- Decoding knows of no document and no line. -/
private theorem unplaced_decode (data : ByteArray) : UnplacedErrors (decode data) := by
  unfold decode
  split
  · exact .ok _
  · exact .error (Failure.unplaced_of _)

/-- A window knows of no document and no line. -/
private theorem unplaced_window (snippet : Snippet) (start stop : Int) (ellipsis : String) :
    UnplacedErrors (snippet.window start stop ellipsis) := by
  by_cases hrange : Snippet.InRange (Snippet.bodyLines snippet.body).length start stop
  · obtain ⟨code, hcode⟩ := Snippet.exists_window_iff.2 hrange
    rw [hcode]
    exact .ok code
  · rw [Snippet.window_of_not_inRange hrange]
    exact .error (Failure.unplaced_of _)

/-- Cutting out an excerpt knows of no document and no line. -/
private theorem Unplaced.excerpt (h : p.Unplaced) {extractor : Extractor}
    (hextract : ∀ source name kind, UnplacedErrors (extractor.extract source name kind))
    (d : Directive) : (p.excerpt extractor d).Unplaced := by
  have hfetch := Resolver.unplaced_fetchFrom h.fetch d.sourceUri []
  have hresolve : (Resolver.resolve p.fetchers d.sourceUri).Unplaced := by
    refine Action.Unplaced.derive (fun s e s' he => ?_) d.sourceUri
    unfold Session.outside Action.within at he
    cases hr : Resolver.fetchFrom d.sourceUri [] p.fetchers s.world with
    | ok data w => rw [hr] at he; cases he
    | error e' w =>
      rw [hr] at he
      cases he
      exact hfetch _ _ _ hr
  refine hresolve.bind fun data => ?_
  refine (Action.Unplaced.ofExcept (unplaced_decode data)).bind fun source => ?_
  refine (Action.Unplaced.ofExcept (hextract _ _ _)).bind fun snippet s e s' he => ?_
  cases he

/-- Getting what is shown knows of no document and no line. -/
theorem Unplaced.code (h : p.Unplaced) (d : Directive) : (p.code d).Unplaced := by
  have hsnippet : (p.snippet d).Unplaced := by
    unfold snippet
    cases hextractor : p.extractors d.language with
    | none =>
      intro s e s' he
      cases he
      exact Failure.unplaced_of _
    | some extractor =>
      cases d.language.supports d.kind with
      | false =>
        intro s e s' he
        cases he
        exact Failure.unplaced_of _
      | true =>
        refine ((h.excerpt (h.extract _ _ hextractor) d).derive d.snippetUri).bind fun data => ?_
        refine (Action.Unplaced.ofExcept (unplaced_decode data)).bind fun text => ?_
        exact .ofExcept (h.restore _ _ hextractor _ _ _)
  exact hsnippet.bind fun snippet => .ofExcept (unplaced_window snippet _ _ _)

end Processor

end Transclude
