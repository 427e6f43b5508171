import Transclude.Proofs.Session.Event

/-!
# Where failures come from

A failure is an error of this library, or it has come back from a call out of the session
(`Blames`).  What lies between the calls fails with errors, with two exceptions
(`Processor.Raises`): an extractor may not restore what is stored, and a directive line may end in
more carriage returns than a block can be written for.
-/

namespace Transclude

/-- The failure is an error, with a problem and a context. -/
def Failure.IsError : Failure → Prop
  | .error .. => True
  | .fault _ | .stalled => False

/-- A context makes no difference to what is no error. -/
theorem Failure.withContext_eq (c : Context) (e : Failure) :
    (e.withContext c).IsError ∨ e.withContext c = e := by
  cases e with
  | error problem context => exact .inl trivial
  | fault f => exact .inr rfl
  | stalled => exact .inr rfl

/-- Every failure that there may be is an error. -/
def ErrorsOnly {α : Type} (r : Except Failure α) : Prop := ∀ e, r = .error e → e.IsError

variable {σ α β : Type}

namespace ErrorsOnly

/-- What succeeds has no other failures than errors. -/
theorem ok (x : α) : ErrorsOnly (.ok x) := fun e he => by cases he

/-- An error is an error. -/
theorem error (problem : Problem Failure) (context : Context) :
    ErrorsOnly (.error (.error problem context) : Except Failure α) := by
  intro e he
  cases he
  trivial

/-- Steps that fail with errors only can be made after each other. -/
theorem bind {r : Except Failure α} (h : ErrorsOnly r) {f : α → Except Failure β}
    (hf : ∀ x, ErrorsOnly (f x)) : ErrorsOnly (r >>= f) := by
  intro e he
  cases r with
  | ok x => exact hf x e he
  | error e' =>
    cases he
    exact h e rfl

end ErrorsOnly

/-- What happens without a call: an extractor does not restore what is stored, or a block is not
    written because its directive line ends in too many carriage returns. -/
inductive Processor.Raises (p : Processor σ) : Failure → Prop where
  | restoring {l : Language} {extractor : Extractor} {name text : String} {kind : Kind}
    {e : Failure} (hextractor : p.extractors l = some extractor)
    (h : extractor.restore name kind text = .error e) : Raises p e
  | writing {line : String} (hmarked : Directive.marked line = true)
    (h : CodeBlock.fits line = false) : Raises p (.fault Fault.tooDeepInCall)

/-- The failure is an error, it happens without a call, or one of the events has come back with
    it. -/
def Failure.BlamedOn (e : Failure) (p : Processor σ) (events : List Event) : Prop :=
  e.IsError ∨ p.Raises e ∨ ∃ event ∈ events, event.answer = .error e

/-- A failure may be blamed on more events. -/
theorem Failure.BlamedOn.mono {p : Processor σ} {e : Failure} {es fs : List Event}
    (h : e.BlamedOn p es) (hsubset : es ⊆ fs) : e.BlamedOn p fs := by
  rcases h with herror | hraises | ⟨event, hmem, hanswer⟩
  · exact .inl herror
  · exact .inr (.inl hraises)
  · exact .inr (.inr ⟨event, hsubset hmem, hanswer⟩)

/-- What the action fails with can be blamed on the events. -/
def Blames (p : Processor σ) (events : Session σ → List Event) (a : Action (Session σ) α) : Prop :=
  ∀ s e, Action.outcome (a s) = .error e → e.BlamedOn p (events s)

namespace Blames

variable {p : Processor σ} {events : Session σ → List Event} {a : Action (Session σ) α}

/-- A result that fails with errors only blames nothing. -/
theorem ofExcept {r : Except Failure α} (h : ErrorsOnly r) :
    Blames p (fun _ => []) (Action.ofExcept r : Action (Session σ) α) := by
  intro s e he
  rw [Action.outcome_ofExcept] at he
  exact .inl (h e he)

/-- Context may be added to what is blamed. -/
theorem withContext (h : Blames p events a) (c : Context) : Blames p events (a.withContext c) := by
  intro s e he
  rw [Action.outcome_withContext] at he
  cases hr : Action.outcome (a s) with
  | ok x => rw [hr] at he; cases he
  | error e' =>
    rw [hr] at he
    cases he
    -- A context only changes what is an error already.
    rcases Failure.withContext_eq c e' with herror | heq
    · exact .inl herror
    · rw [heq]
      exact h s e' hr

/-- Actions are blamed on the events of both. -/
theorem bind (h : Blames p events a) {f : α → Action (Session σ) β}
    {rest : α → Session σ → List Event} (hf : ∀ x, Blames p (rest x) (f x)) :
    Blames p (fun s => events s ++ match a s with | .ok x t => rest x t | .error _ _ => [])
      (a >>= f) := by
  intro s e he
  have hfirst := h s e
  rw [Action.bind_apply] at he
  dsimp only
  -- Either the first action fails, with its own events, or the second one does.
  cases hr : a s with
  | ok x t =>
    rw [hr] at he
    exact (hf x t e he).mono (List.subset_append_right _ _)
  | error e' t =>
    rw [hr] at he hfirst
    cases he
    exact (hfirst rfl).mono (List.subset_append_left _ _)

/-- What follows without an event fails with errors only. -/
theorem bind_ofExcept (h : Blames p events a) {f : α → Action (Session σ) β}
    (hf : ∀ x, Blames p (fun _ => []) (f x)) : Blames p events (a >>= f) := by
  intro s e he
  refine (h.bind hf s e he).mono ?_
  dsimp only
  cases a s <;> exact List.append_subset.2 ⟨List.Subset.refl _, List.nil_subset _⟩

/-- A store that cannot be read is an error. -/
theorem derive {events : Session σ → List Event} {produce : Action (Session σ) ByteArray}
    (h : Blames p events produce) (uri : String) :
    Blames p (Resolver.deriveEvents uri events) (Resolver.derive uri produce) := by
  intro s e he
  unfold Resolver.derive at he
  unfold Resolver.deriveEvents
  have hproduce := h s
  -- A lookup fails only in a broken store, and its failure is an error.
  cases hlookup : Resolver.lookup s.store uri with
  | error e' =>
    rw [hlookup] at he
    cases he
    unfold Resolver.lookup at hlookup
    split at hlookup
    · cases hlookup
    · split at hlookup
      · cases hlookup
      · cases hlookup
        exact .inl trivial
  | ok found =>
    rw [hlookup] at he
    cases found with
    | some data => cases he
    | none =>
      cases hr : produce s with
      | ok data t => rw [hr] at he; cases he
      | error e' t =>
        rw [hr] at he hproduce
        exact hproduce e he

end Blames

namespace Processor

variable {p : Processor σ} {d : Directive}

end Processor

end Transclude
