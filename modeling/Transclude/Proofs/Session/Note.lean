import Transclude.Proofs.Session.Event

/-!
# Fetchers that take notes

A fetcher may note down what it is asked and what it answers, without anybody being
the wiser.  What the fetchers of a processor have noted after some requests is just
what the history says (`serveAll_noting`): they are called when the events say so, in
that order, and not otherwise.
-/

namespace Transclude

/-- That a fetcher has been asked for a source, and what it has answered. -/
structure Note where
  /-- The number of the fetcher. -/
  i : Nat
  uri : String
  answer : Except Failure ByteArray

/-- What is noted of an event. -/
def Event.note? : Event → Option Note
  | ask _ i uri answer => some ⟨i, uri, answer⟩
  | cut .. => none

variable {σ τ α β : Type}

/-- The result in another world. -/
def Action.carry (f : σ → τ) : EStateM.Result Failure σ α → EStateM.Result Failure τ α
  | .ok x s => .ok x (f s)
  | .error e s => .error e (f s)

/-- A result taken as an action is the same in another state. -/
private theorem Action.carry_ofExcept (f : σ → τ) (r : Except Failure α) (s : σ) :
    carry f (ofExcept r s) = ofExcept r (f s) := by
  cases r <;> rfl

/-- The fetcher, which has the number `i` and takes notes. -/
def Fetcher.noting (i : Nat) (fetcher : Fetcher σ) : Fetcher (σ × List Note) := fun uri w =>
  let result := fetcher uri w.1
  Action.carry (fun w' => (w', w.2 ++ [⟨i, uri, Action.outcome result⟩])) result

/-- The fetchers, which have the numbers from `i` on and take notes. -/
def Fetcher.notingFrom (i : Nat) (fetchers : List (Fetcher σ)) : List (Fetcher (σ × List Note)) :=
  (fetchers.zipIdx i).map fun numbered => numbered.1.noting numbered.2

/-- The processor, whose fetchers take notes. -/
def Processor.noting (p : Processor σ) : Processor (σ × List Note) :=
  ⟨p.extractors, Fetcher.notingFrom 0 p.fetchers⟩

/-- The session, where the notes are those given. -/
def Session.noting (s : Session σ) (notes : List Note) : Session (σ × List Note) :=
  ⟨s.store, (s.world, notes)⟩

/-- With notes taken the action `a` becomes `a'`, which does the same and notes the events. -/
def Noted (events : Session σ → List Event) (a : Action (Session σ) α)
    (a' : Action (Session (σ × List Note)) α) : Prop :=
  ∀ s notes, a' (s.noting notes) =
    Action.carry (fun t => t.noting (notes ++ (events s).filterMap Event.note?)) (a s)

namespace Noted

variable {events : Session σ → List Event} {a : Action (Session σ) α}
  {a' : Action (Session (σ × List Note)) α}

/-- What is noted is what happened. -/
private theorem left (h : Noted events a a') (s : Session σ) (notes : List Note) :
    Action.left (a' (s.noting notes)) =
      (Action.left (a s)).noting (notes ++ (events s).filterMap Event.note?) := by
  rw [h s notes]
  cases a s <;> rfl

/-- Nothing is noted of a result that is known. -/
theorem ofExcept (r : Except Failure α) : Noted (fun _ => []) (Action.ofExcept r)
    (Action.ofExcept r : Action (Session (σ × List Note)) α) := by
  intro s notes
  rw [List.filterMap_nil, List.append_nil]
  cases r <;> rfl

/-- Context may be added to what is noted. -/
private theorem withContext (h : Noted events a a') (c : Context) :
    Noted events (a.withContext c) (a'.withContext c) := by
  intro s notes
  unfold Action.withContext
  rw [h s notes]
  cases a s <;> rfl

/-- The events of what follows come after those of the first action. -/
theorem bind (h : Noted events a a') {f : α → Action (Session σ) β}
    {f' : α → Action (Session (σ × List Note)) β} {rest : α → Session σ → List Event}
    (hf : ∀ x, Noted (rest x) (f x) (f' x)) :
    Noted (fun s => events s ++ match a s with | .ok x t => rest x t | .error _ _ => [])
      (a >>= f) (a' >>= f') := by
  -- The notes of the first action come before those of the second.
  intro s notes
  rw [Action.bind_apply, Action.bind_apply, h s notes]
  dsimp only
  cases a s with
  | ok x t =>
    dsimp only
    rw [List.filterMap_append, ← List.append_assoc]
    exact hf x t _
  | error e t =>
    dsimp only
    rw [List.append_nil]
    rfl

/-- What follows without an event adds none. -/
theorem bind_ofExcept (h : Noted events a a') {f : α → Action (Session σ) β}
    {f' : α → Action (Session (σ × List Note)) β} (hf : ∀ x, Noted (fun _ => []) (f x) (f' x)) :
    Noted events (a >>= f) (a' >>= f') := by
  intro s notes
  have hbind := h.bind hf s notes
  cases hr : a s <;> simp only [hr, List.append_nil] at hbind <;> exact hbind

/-- Storing notes only what is noted when it is produced. -/
theorem derive {events : Session σ → List Event} {produce : Action (Session σ) ByteArray}
    {produce' : Action (Session (σ × List Note)) ByteArray} (h : Noted events produce produce')
    (uri : String) :
    Noted (Resolver.deriveEvents uri events) (Resolver.derive uri produce)
      (Resolver.derive uri produce') := by
  intro s notes
  unfold Resolver.derive Resolver.deriveEvents
  have hstore : (s.noting notes).store = s.store := rfl
  rw [hstore]
  -- Only a miss runs the action, and what it notes is all that is noted.
  cases Resolver.lookup s.store uri with
  | error e => simp only [List.filterMap_nil, List.append_nil, Action.carry]
  | ok found =>
    cases found with
    | some data => simp only [List.filterMap_nil, List.append_nil, Action.carry]
    | none =>
      dsimp only
      rw [h s notes]
      cases produce s <;> rfl

end Noted

/-- Each call of a fetcher is noted. -/
theorem Resolver.fetchFrom_noting (store : Store) (uri : String) (causes : List Failure) (i : Nat)
    (fetchers : List (Fetcher σ)) (w : σ) (notes : List Note) :
    fetchFrom uri causes (Fetcher.notingFrom i fetchers) (w, notes) =
      Action.carry (fun w' =>
        (w', notes ++ (fetchEvents store uri i fetchers w).filterMap Event.note?))
        (fetchFrom uri causes fetchers w) := by
  induction fetchers generalizing causes i w notes with
  | nil => simp [fetchFrom, fetchEvents, Fetcher.notingFrom, Action.carry]
  | cons fetcher rest ih =>
    have hfetchers : Fetcher.notingFrom i (fetcher :: rest) =
        fetcher.noting i :: Fetcher.notingFrom (i + 1) rest := rfl
    have hfetcher : fetcher.noting i uri (w, notes) = Action.carry
        (fun w' => (w', notes ++ [⟨i, uri, Action.outcome (fetcher uri w)⟩])) (fetcher uri w) := rfl
    rw [hfetchers]
    unfold fetchFrom fetchEvents
    rw [hfetcher]
    -- Each fetcher is noted as it is asked, whatever it answers.
    cases hr : fetcher uri w with
    | ok data w' => rfl
    | error e w' =>
      cases he : e.isFetch with
      | false =>
        simp only [he, Action.carry, Bool.false_eq_true, if_false]
        rfl
      | true =>
        simp only [he, Action.carry, if_true]
        rw [ih, List.append_assoc]
        rfl

/-- Finding a source notes the calls of fetchers. -/
private theorem Resolver.noted_resolve (fetchers : List (Fetcher σ)) (uri : String) :
    Noted (resolveEvents fetchers uri) (resolve fetchers uri)
      (resolve (Fetcher.notingFrom 0 fetchers) uri) := by
  refine Noted.derive (fun s notes => ?_) uri
  have hworld : (s.noting notes).world = (s.world, notes) := rfl
  unfold Session.outside Action.within
  rw [hworld, fetchFrom_noting s.store]
  cases fetchFrom uri [] fetchers s.world <;> rfl

namespace Processor

variable {p : Processor σ}

/-- Cutting out an excerpt notes what is done for it. -/
private theorem noted_excerpt (extractor : Extractor) (d : Directive) :
    Noted (p.excerptEvents extractor d) (p.excerpt extractor d) (p.noting.excerpt extractor d) := by
  intro s notes
  have hresolve : Resolver.resolve p.noting.fetchers d.sourceUri (s.noting notes) = _ :=
    Resolver.noted_resolve p.fetchers d.sourceUri s notes
  rw [excerpt_apply, excerpt_apply, hresolve]
  unfold excerptEvents
  cases Resolver.resolve p.fetchers d.sourceUri s with
  | error e t =>
    dsimp only [Action.carry]
    rw [List.append_nil]
  | ok data t =>
    change Action.ofExcept _ (t.noting _) = Action.carry _ (Action.ofExcept _ t)
    rw [Action.carry_ofExcept, List.filterMap_append]
    dsimp only
    -- A cut is no call of a fetcher, so nothing is noted of it.
    cases decode data with
    | error e => rw [List.filterMap_nil, List.append_nil]
    | ok source => rw [List.filterMap_cons_none rfl, List.filterMap_nil, List.append_nil]

/-- Getting an excerpt notes what is done for it. -/
private theorem noted_snippet (d : Directive) :
    Noted (p.snippetEvents d) (p.snippet d) (p.noting.snippet d) := by
  -- Noting changes the fetchers and nothing else.
  unfold snippetEvents snippet
  have hextractors : p.noting.extractors = p.extractors := rfl
  rw [hextractors]
  cases p.extractors d.language with
  | none => exact .ofExcept (.error _)
  | some extractor =>
    cases d.language.supports d.kind with
    | false => exact .ofExcept (.error _)
    | true =>
      refine ((noted_excerpt extractor d).derive d.snippetUri).bind_ofExcept fun data => ?_
      exact (Noted.ofExcept _).bind_ofExcept fun text => .ofExcept _

/-- Rendering a directive notes what is done for it. -/
private theorem noted_splice (line : String) (rest : List String) :
    Noted (p.spliceEvents line) (p.splice line rest) (p.noting.splice line rest) := by
  unfold spliceEvents splice
  cases Directive.parse line with
  | error e => exact .ofExcept (.error e)
  | ok d =>
    refine Noted.withContext ?_ _
    refine ((noted_snippet d).bind_ofExcept fun snippet => .ofExcept _).bind_ofExcept fun code => ?_
    exact (Noted.ofExcept _).bind_ofExcept fun block =>
      (Noted.ofExcept _).bind_ofExcept fun old => .ofExcept (.ok _)

/-- Rendering lines notes what is done for their directives. -/
private theorem noted_renderLines (number passing : Nat) (lines : List String) :
    Noted (p.lineEvents passing lines) (p.renderLines number passing lines)
      (p.noting.renderLines number passing lines) := by
  induction lines generalizing number passing with
  | nil => exact .ofExcept (.ok "")
  -- Only a line that is met as a directive makes a note.
  | cons line rest ih =>
    cases passing with
    | succ passing => exact ih (number + 1) passing
    | zero =>
      intro s notes
      unfold lineEvents renderLines
      cases Directive.marked line with
      | false => exact (ih (number + 1) 0).bind_ofExcept (fun tail => .ofExcept (.ok _)) s notes
      | true =>
        have hsplice := (noted_splice (p := p) line rest).withContext
          { line := some (number : Int) }
        have hbind := hsplice.bind fun spliced =>
          (ih (number + 1) spliced.2).bind_ofExcept fun tail =>
            .ofExcept (.ok (line ++ "\n" ++ spliced.1 ++ tail))
        refine (hbind s notes).trans ?_
        simp only [Action.withContext]
        cases p.splice line rest s <;> rfl

/-- Rendering a document notes what is done for its directives. -/
private theorem noted_render (document : String) :
    Noted (p.renderEvents document) (p.render document) (p.noting.render document) := by
  unfold renderEvents render
  cases document.isEmpty with
  | true => exact .ofExcept (.ok "")
  | false => exact noted_renderLines 1 0 _

/-- What the fetchers note of several requests is what the history says. -/
theorem serveAll_noting (requests : List Request) (s : Session σ) (notes : List Note) :
    p.noting.serveAll requests (s.noting notes) =
      (p.serveAll requests s).noting
        (notes ++ (p.history requests s).filterMap Event.note?) := by
  induction requests generalizing s notes with
  | nil =>
    rw [history, List.filterMap_nil, List.append_nil]
    rfl
  -- A request and those behind it put their notes one after the other.
  | cons request rest ih =>
    have hserve : p.noting.serve request (s.noting notes) =
        (p.serve request s).noting (notes ++ (p.events request s).filterMap Event.note?) := by
      cases request with
      | render document => exact (noted_render document).left s notes
      | resolve uri => exact (Resolver.noted_resolve p.fetchers uri).left s notes
    change p.noting.serveAll rest (p.noting.serve request (s.noting notes)) = _
    rw [hserve, ih, history, List.filterMap_append, List.append_assoc]
    rfl

end Processor

end Transclude
