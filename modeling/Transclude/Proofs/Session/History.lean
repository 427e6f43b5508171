import Transclude.Proofs.Document.Reprocess
import Transclude.Proofs.Session.Course
import Transclude.Proofs.Session.Note

/-!
# The history of a session

Every action of a session is a course of events (`leads_serve`), and its events are
what they are said to be: calls of the fetchers in their order, and cuts out of sources
that are stored, for directives that are met (`made_of_mem_events`).  What this means for
the store over any number of requests is `orderly_of_honest`.
-/

namespace Transclude

/-! ## What the resolver does -/

namespace Resolver

variable {σ : Type} {store : Store} {uri : String}

/-- Nothing is missing but what is not there. -/
theorem lookup_eq_ok_none_iff (h : store.Honest) :
    lookup store uri = .ok none ↔ store.broken = none ∧ store.find? uri = none := by
  cases hbroken : store.broken with
  | none =>
    rw [lookup_of_readable hbroken]
    simp
  | some e =>
    -- An honest store never reports a miss when it is broken.
    have hmiss : e.isMiss = false := h e (by rw [hbroken]; rfl)
    unfold lookup Store.retrieve
    simp [hbroken, hmiss]

/-- Asking the fetchers brings what the first of them that has the source gives. -/
theorem leads_fetchEvents (h : store.find? uri = none) (i : Nat) (causes : List Failure)
    (fetchers : List (Fetcher σ)) (w : σ) :
    Leads store (fetchEvents store uri i fetchers w)
      (store.learn uri (Action.outcome (fetchFrom uri causes fetchers w))) := by
  induction fetchers generalizing i causes w with
  | nil => exact .nil store
  | cons fetcher rest ih =>
    unfold fetchEvents fetchFrom
    refine Leads.cons (e := .ask store i uri (Action.outcome (fetcher uri w))) h ?_
    cases hr : fetcher uri w with
    | ok data w' => exact .nil _
    | error e w' =>
      -- The store stays as it is, and perhaps the next fetcher is asked.
      cases he : e.isFetch with
      | true =>
        simp only [he, if_true]
        exact ih (i + 1) (e :: causes) w'
      | false =>
        simp only [he, Bool.false_eq_true, if_false]
        exact .nil store

variable {events : Session σ → List Event} {produce : Action (Session σ) ByteArray} {s : Session σ}

/-- Deriving a value adds one entry to what producing it does. -/
theorem leads_derive (hproduce : lookup s.store uri = .ok none →
      Leads s.store (events s)
        ((Action.left (produce s)).store.learn uri (Action.outcome (produce s)))) :
    Leads s.store (deriveEvents uri events s) (Action.left (derive uri produce s)).store := by
  unfold deriveEvents derive
  -- Only a name that is not in the store leads to events.
  cases hlookup : lookup s.store uri with
  | error e => exact .nil _
  | ok found =>
    cases found with
    | some data => exact .nil _
    | none =>
      have hleads := hproduce hlookup
      cases hr : produce s with
      | ok data t => rwa [hr] at hleads
      | error e t => rwa [hr] at hleads

/-- Finding a source is a course of the store. -/
private theorem leads_resolve (hs : s.store.Honest) (fetchers : List (Fetcher σ)) (uri : String) :
    Leads s.store (resolveEvents fetchers uri s) (Action.left (resolve fetchers uri s)).store := by
  refine leads_derive fun hlookup => ?_
  have habsent := ((lookup_eq_ok_none_iff hs).1 hlookup).2
  have hleads := leads_fetchEvents habsent 0 [] fetchers s.world
  unfold Session.outside Action.within
  cases hr : fetchFrom uri [] fetchers s.world with
  | ok data w => rwa [hr] at hleads
  | error e w => rwa [hr] at hleads

/-- The calls for a source are calls of fetchers, each of those before the one that is called. -/
theorem exists_of_mem_fetchEvents {fetchers : List (Fetcher σ)} {k : Nat} {w : σ} {e : Event}
    (he : e ∈ fetchEvents store uri k fetchers w) :
    ∃ i fetcher w', e = .ask store (k + i) uri (Action.outcome (fetcher uri w')) ∧
      fetchers[i]? = some fetcher ∧
      ∀ j < i, ∃ failure, .ask store (k + j) uri (.error failure) ∈
        fetchEvents store uri k fetchers w ∧ failure.isFetch = true := by
  induction fetchers generalizing k w with
  | nil => cases he
  | cons fetcher rest ih =>
    unfold fetchEvents at he ⊢
    rcases List.mem_cons.1 he with rfl | he
    · exact ⟨0, fetcher, w, rfl, rfl, fun j hj => absurd hj (Nat.not_lt_zero j)⟩
    · cases hr : fetcher uri w with
      | ok data w' => rw [hr] at he; cases he
      | error failure w' =>
        cases hfetch : failure.isFetch with
        | false =>
          simp only [hr, hfetch, Bool.false_eq_true, if_false] at he
          cases he
        | true =>
          simp only [hr, hfetch, if_true] at he
          obtain ⟨i, other, w'', rfl, hother, hbefore⟩ := ih he
          have hnumber : ∀ n, k + 1 + n = k + (n + 1) := fun n => by omega
          refine ⟨i + 1, other, w'', by rw [hnumber], hother, fun j hj => ?_⟩
          -- The fetcher at the head comes before all the others.
          cases j with
          | zero => exact ⟨failure, List.mem_cons_self, hfetch⟩
          | succ j =>
            obtain ⟨failure', hmem, hfetch'⟩ := hbefore j (by omega)
            rw [hnumber] at hmem
            simp only [hfetch, if_true]
            exact ⟨failure', List.mem_cons_of_mem _ hmem, hfetch'⟩

/-- Something happens only for a key that is not stored. -/
private theorem mem_events_of_mem_deriveEvents {e : Event} (he : e ∈ deriveEvents uri events s) :
    lookup s.store uri = .ok none ∧ deriveEvents uri events s = events s := by
  unfold deriveEvents at he ⊢
  cases hlookup : lookup s.store uri with
  | error e => rw [hlookup] at he; cases he
  | ok found =>
    cases found with
    | some data => rw [hlookup] at he; cases he
    | none => exact ⟨rfl, rfl⟩

/-- The events of a source are calls of the fetchers for it. -/
theorem exists_of_mem_resolveEvents {fetchers : List (Fetcher σ)} {e : Event}
    (he : e ∈ resolveEvents fetchers uri s) :
    ∃ i fetcher w, e = .ask s.store i uri (Action.outcome (fetcher uri w)) ∧
      fetchers[i]? = some fetcher ∧
      ∀ j < i, ∃ failure, .ask s.store j uri (.error failure) ∈ resolveEvents fetchers uri s ∧
        failure.isFetch = true := by
  obtain ⟨-, hevents⟩ := mem_events_of_mem_deriveEvents he
  unfold resolveEvents at he ⊢
  rw [hevents] at he ⊢
  simpa only [Nat.zero_add] using exists_of_mem_fetchEvents he

end Resolver

/-! ## What the processor does -/

namespace Directive

/-- No excerpt goes by the locator of its own source, which is shorter. -/
theorem snippetUri_ne_sourceUri (d : Directive) : d.snippetUri ≠ d.sourceUri := by
  intro h
  have hlength := congrArg String.length h
  simp only [snippetUri, sourceUri, String.length_append] at hlength
  have hpoint : ".".length = 1 := rfl
  omega

end Directive

namespace Processor

variable {σ : Type} {p : Processor σ} {s : Session σ} {d : Directive}

/-- Producing an excerpt first stores the source, if it is not stored, and then cuts. -/
theorem leads_excerpt (hs : s.store.Honest) (habsent : s.store.find? d.snippetUri = none)
    (extractor : Extractor) :
    Leads s.store (p.excerptEvents extractor d s)
      ((Action.left (p.excerpt extractor d s)).store.learn d.snippetUri
        (Action.outcome (p.excerpt extractor d s))) := by
  have hresolve := Resolver.leads_resolve hs p.fetchers d.sourceUri
  -- Only the source may be new, so the locator of the excerpt is still free.
  have hother : ∀ e ∈ Resolver.resolveEvents p.fetchers d.sourceUri s, e.uri ≠ d.snippetUri := by
    intro e he
    obtain ⟨i, fetcher, w, rfl, -⟩ := Resolver.exists_of_mem_resolveEvents he
    exact d.snippetUri_ne_sourceUri.symm
  have hstill := hresolve.find?_eq hother
  rw [habsent] at hstill
  rw [excerpt_apply]
  unfold excerptEvents
  cases hr : Resolver.resolve p.fetchers d.sourceUri s with
  | error e t =>
    rw [hr] at hresolve
    dsimp only
    rw [List.append_nil]
    exact hresolve
  | ok data t =>
    rw [hr] at hresolve hstill
    dsimp only
    rw [Action.left_ofExcept, Action.outcome_ofExcept]
    cases decode data with
    | error e =>
      dsimp only
      rw [List.append_nil]
      exact hresolve
    | ok source =>
      exact hresolve.append (.cons (e := .cut t.store d source _) hstill (.nil _))

/-- Getting an excerpt is a course of the store. -/
private theorem leads_snippet (hs : s.store.Honest) :
    Leads s.store (p.snippetEvents d s) (Action.left (p.snippet d s)).store := by
  unfold snippetEvents snippet
  cases p.extractors d.language with
  | none => exact .nil _
  | some extractor =>
    cases d.language.supports d.kind with
    | false => exact .nil _
    | true =>
      simp only [if_true]
      rw [Action.left_bind fun _ => (Action.Keeps.ofExcept _).bind fun _ => .ofExcept _]
      refine Resolver.leads_derive fun hlookup => ?_
      exact leads_excerpt hs ((Resolver.lookup_eq_ok_none_iff hs).1 hlookup).2 extractor

/-- Rendering a directive is a course of the store. -/
private theorem leads_splice (hs : s.store.Honest) (line : String) (rest : List String) :
    Leads s.store (p.spliceEvents line s) (Action.left (p.splice line rest s)).store := by
  unfold spliceEvents splice
  cases Directive.parse line with
  | error e => exact .nil _
  | ok d =>
    have hcode : Action.left (p.code d s) = Action.left (p.snippet d s) :=
      Action.left_bind (fun _ => .ofExcept _) s
    -- The block is written without any request.
    simp only [Action.left_withContext, block]
    rw [Action.left_bind fun _ => (Action.Keeps.ofExcept _).bind fun _ =>
      (Action.Keeps.ofExcept _).bind fun _ => .pure _, hcode]
    exact leads_snippet hs

/-- Rendering lines is a course of the store. -/
private theorem leads_lineEvents
    (hs : s.store.Honest) (number passing : Nat) (lines : List String) :
    Leads s.store (p.lineEvents passing lines s)
      (Action.left (p.renderLines number passing lines s)).store := by
  -- A line that is passed over makes no event, and the index goes on.
  induction lines generalizing number passing s with
  | nil => exact .nil _
  | cons line rest ih =>
    cases passing with
    | succ passing => exact ih hs (number + 1) passing
    | zero =>
      unfold lineEvents renderLines
      cases Directive.marked line with
      | false =>
        simp only [Bool.false_eq_true, if_false]
        rw [Action.left_bind fun _ => .pure _]
        exact ih hs (number + 1) 0
      | true =>
        simp only [if_true]
        have hsplice := leads_splice (p := p) hs line rest
        rw [Action.bind_apply, Action.withContext]
        cases hr : p.splice line rest s with
        | error e t =>
          rw [hr] at hsplice
          dsimp only
          rw [List.append_nil]
          exact hsplice
        -- The store is still honest behind the directive, so the induction goes on.
        | ok spliced t =>
          obtain ⟨block, old⟩ := spliced
          rw [hr] at hsplice
          dsimp only
          rw [Action.left_bind fun _ => .pure _]
          exact hsplice.append (ih (hsplice.honest hs) (number + 1) old)

/-- Rendering a document is a course of the store. -/
theorem leads_render (hs : s.store.Honest) (document : String) :
    Leads s.store (p.renderEvents document s) (Action.left (p.render document s)).store := by
  unfold renderEvents render
  cases document.isEmpty with
  | true => exact .nil _
  | false => exact leads_lineEvents hs 1 0 _

/-- Serving a request is a course of the store. -/
private theorem leads_serve (hs : s.store.Honest) (request : Request) :
    Leads s.store (p.events request s) (p.serve request s).store := by
  cases request with
  | render document => exact leads_render hs document
  | resolve uri => exact Resolver.leads_resolve hs p.fetchers uri

/-- Serving all requests is a course of the store. -/
private theorem leads_history (hs : s.store.Honest) (requests : List Request) :
    Leads s.store (p.history requests s) (p.serveAll requests s).store := by
  induction requests generalizing s with
  | nil => exact .nil _
  | cons request rest ih =>
    exact (leads_serve hs request).append (ih ((leads_serve hs request).honest hs))

end Processor

/-! ## What the events are -/

/-- The event is a call that a session makes, where `directives` are met and `all` are the events:
    fetchers are asked in their order, each after those before it have failed, and excerpts are cut
    by the extractor for their language, out of sources that are stored. -/
inductive Event.Made {σ : Type} (p : Processor σ) (directives : List Directive)
    (all : List Event) : Event → Prop where
  | ask {store : Store} {i : Nat} {uri : String} {fetcher : Fetcher σ} {w : σ}
    (hfetcher : p.fetchers[i]? = some fetcher)
    (hbefore : ∀ j < i, ∃ failure, .ask store j uri (.error failure) ∈ all ∧
      failure.isFetch = true) :
    Made p directives all (.ask store i uri (Action.outcome (fetcher uri w)))
  | cut {store : Store} {d : Directive} {source : String} {data : ByteArray}
    {extractor : Extractor} (hd : d ∈ directives)
    (hextractor : p.extractors d.language = some extractor)
    (hdata : store.find? d.sourceUri = some data) (hsource : Processor.decode data = .ok source) :
    Made p directives all (.cut store d source (extractor.cut source d.name d.kind))

namespace Event.Made

variable {σ : Type} {p : Processor σ} {directives more : List Directive} {all others : List Event}
  {e : Event}

/-- An event may be made for more directives, among more events. -/
private theorem mono (h : e.Made p directives all) (hmore : directives ⊆ more)
    (hothers : all ⊆ others) :
    e.Made p more others := by
  cases h with
  | ask hfetcher hbefore =>
    -- The events that come before are among those of the longer history.
    refine .ask hfetcher fun j hj => ?_
    obtain ⟨failure, hmem, hfetch⟩ := hbefore j hj
    exact ⟨failure, hothers hmem, hfetch⟩
  | cut hd hextractor hdata hsource => exact .cut (hmore hd) hextractor hdata hsource

end Event.Made

namespace Processor

variable {σ : Type} {p : Processor σ} {s : Session σ} {d : Directive} {e : Event}

/-- What happens for a source is made by the fetchers. -/
private theorem made_of_mem_resolveEvents {uri : String}
    (he : e ∈ Resolver.resolveEvents p.fetchers uri s) (directives : List Directive) :
    e.Made p directives (Resolver.resolveEvents p.fetchers uri s) := by
  obtain ⟨i, fetcher, w, rfl, hfetcher, hbefore⟩ := Resolver.exists_of_mem_resolveEvents he
  exact .ask hfetcher hbefore

/-- What happens for an excerpt is made for its directive. -/
private theorem made_of_mem_excerptEvents {extractor : Extractor} (hs : s.Readable)
    (hextractor : p.extractors d.language = some extractor)
    (he : e ∈ p.excerptEvents extractor d s) : e.Made p [d] (p.excerptEvents extractor d s) := by
  unfold excerptEvents at he ⊢
  rcases List.mem_append.1 he with hask | hcut
  · exact (made_of_mem_resolveEvents hask [d]).mono (List.Subset.refl _)
      (List.subset_append_left _ _)
  · cases hr : Resolver.resolve p.fetchers d.sourceUri s with
    | error e t => rw [hr] at hcut; cases hcut
    | ok data t =>
      rw [hr] at hcut
      -- The source has just been stored, or it was stored before.
      have hdata : t.store.find? d.sourceUri = some data := Resolver.find?_of_derive hs hr
      cases hdecode : decode data with
      | error e => simp [hdecode] at hcut
      | ok source =>
        simp only [hdecode, List.mem_singleton] at hcut
        subst hcut
        exact .cut (List.mem_singleton_self d) hextractor hdata hdecode

/-- What happens for an excerpt that is stored is made for its directive. -/
private theorem made_of_mem_snippetEvents (hs : s.store.Honest) (he : e ∈ p.snippetEvents d s) :
    e.Made p [d] (p.snippetEvents d s) := by
  unfold snippetEvents at he ⊢
  cases hextractor : p.extractors d.language with
  | none => simp [hextractor] at he
  | some extractor =>
    cases hsupports : d.language.supports d.kind with
    | false => simp [hextractor, hsupports] at he
    | true =>
      simp only [hextractor, hsupports, if_true] at he ⊢
      obtain ⟨hlookup, hevents⟩ := Resolver.mem_events_of_mem_deriveEvents he
      rw [hevents] at he ⊢
      exact made_of_mem_excerptEvents ((Resolver.lookup_eq_ok_none_iff hs).1 hlookup).1
        hextractor he

/-- What happens for lines is made for the directives that are met. -/
private theorem made_of_mem_lineEvents {passing : Nat} {lines : List String} (hs : s.store.Honest)
    (he : e ∈ p.lineEvents passing lines s) :
    e.Made p (p.metLines passing lines s) (p.lineEvents passing lines s) := by
  induction lines generalizing passing s with
  | nil => cases he
  | cons line rest ih =>
    cases passing with
    | succ passing => exact ih hs he
    | zero =>
      cases hline : Directive.marked line with
      | false =>
        simp only [lineEvents, metLines, hline, Bool.false_eq_true, if_false] at he ⊢
        exact ih hs he
      | true =>
        simp only [lineEvents, metLines, hline, if_true] at he ⊢
        rcases List.mem_append.1 he with he | he
        · -- The directive of this line.
          unfold spliceEvents at he ⊢
          cases hparse : Directive.parse line with
          | error failure => simp [hparse] at he
          | ok d =>
            rw [hparse] at he
            exact (made_of_mem_snippetEvents hs he).mono (List.subset_append_left _ _)
              (List.subset_append_left _ _)
        -- The events behind the line start from the session the line leaves.
        · cases hr : p.splice line rest s with
          | error failure t => rw [hr] at he; cases he
          | ok spliced t =>
            obtain ⟨block, old⟩ := spliced
            rw [hr] at he
            have hleads := leads_splice (p := p) hs line rest
            rw [hr] at hleads
            exact (ih (hleads.honest hs) he).mono (List.subset_append_right _ _)
              (List.subset_append_right _ _)

/-- The events of a request are calls that it makes. -/
theorem made_of_mem_events {request : Request} (hs : s.store.Honest)
    (he : e ∈ p.events request s) :
    e.Made p (p.metBy request s) (p.events request s) := by
  cases request with
  | resolve uri => exact made_of_mem_resolveEvents he _
  | render document =>
    simp only [events, metBy, renderEvents, met] at he ⊢
    cases hempty : document.isEmpty with
    | true => simp [hempty] at he
    | false =>
      simp only [hempty, Bool.false_eq_true, if_false] at he ⊢
      exact made_of_mem_lineEvents hs he

/-! ## Any number of requests -/

/-- Under `uri` goes what the first fetcher that does not fail gives: it is asked in the events, and
    so are those before it. -/
def Fetched (p : Processor σ) (events : List Event) (uri : String) (data : ByteArray) : Prop :=
  ∃ store i fetcher w, .ask store i uri (.ok data) ∈ events ∧ p.fetchers[i]? = some fetcher ∧
    Action.outcome (fetcher uri w) = .ok data ∧
    ∀ j < i, ∃ failure, .ask store j uri (.error failure) ∈ events ∧ failure.isFetch = true

/-- Under `uri` goes the excerpt of one of the directives, cut in the events out of the source that
    is stored for it. -/
def Excerpted (p : Processor σ) (directives : List Directive) (events : List Event) (uri : String)
    (data : ByteArray) : Prop :=
  ∃ d ∈ directives, ∃ store source bytes extractor snippet, uri = d.snippetUri ∧
    .cut store d source (.ok (extractor.serialize snippet)) ∈ events ∧
    p.extractors d.language = some extractor ∧ store.find? d.sourceUri = some bytes ∧
    decode bytes = .ok source ∧ extractor.extract source d.name d.kind = .ok snippet ∧
    data = Text.encode (extractor.serialize snippet)

/-- What has come back from a call has been fetched or excerpted. -/
theorem fetched_or_excerpted {directives : List Directive} {all : List Event} {data : ByteArray}
    (he : e ∈ all) (hmade : e.Made p directives all) (hanswer : e.answer = .ok data) :
    p.Fetched all e.uri data ∨ p.Excerpted directives all e.uri data := by
  cases hmade with
  -- What comes from a fetcher is fetched; anything else is cut out of a source.
  | @ask store i uri fetcher w hfetcher hbefore =>
    have houtcome : Action.outcome (fetcher uri w) = .ok data := hanswer
    rw [houtcome] at he
    exact .inl ⟨store, i, fetcher, w, he, hfetcher, houtcome, hbefore⟩
  | @cut store d source bytes extractor hd hextractor hdata hsource =>
    have hcut : (extractor.cut source d.name d.kind).map Text.encode = .ok data := hanswer
    unfold Extractor.cut at hcut he
    cases hextract : extractor.extract source d.name d.kind with
    | error failure => rw [hextract] at hcut; cases hcut
    | ok snippet =>
      rw [hextract] at hcut he
      cases hcut
      exact .inr ⟨d, hd, store, source, bytes, extractor, snippet, rfl, he, hextractor, hdata,
        hsource, hextract, rfl⟩

/-- How the store fares while a session serves some requests. -/
structure Orderly (p : Processor σ) (requests : List Request) (s : Session σ) : Prop where
  /-- What is stored at the start, at some event or at the end is stored from then on. -/
  kept : (s.store :: ((p.history requests s).map Event.store ++
    [(p.serveAll requests s).store])).Pairwise Store.Within
  /-- What is stored after some of the requests is stored at the end. -/
  keptBetween : ∀ earlier later, requests = earlier ++ later →
    (p.serveAll earlier s).store.Within (p.serveAll requests s).store
  /-- A fetcher is asked for what is not stored, and a cut is made of what is not stored. -/
  absent : ∀ e ∈ p.history requests s, e.store.find? e.uri = none
  /-- When something has come for a locator, it is not asked for again. -/
  once : (p.history requests s).Pairwise fun e e' =>
    ∀ data, e.answer = .ok data → e'.uri ≠ e.uri
  /-- The fetchers are called as the history says. -/
  noted : ∀ notes, p.noting.serveAll requests (s.noting notes) =
    (p.serveAll requests s).noting (notes ++ (p.history requests s).filterMap Event.note?)
  /-- What a request adds to the store has been fetched or excerpted in its course. -/
  brought : ∀ earlier request later, requests = earlier ++ request :: later → ∀ uri data,
    (p.serveAll earlier s).store.find? uri = none →
    (p.serve request (p.serveAll earlier s)).store.find? uri = some data →
      p.Fetched (p.events request (p.serveAll earlier s)) uri data ∨
        p.Excerpted (p.metBy request (p.serveAll earlier s))
          (p.events request (p.serveAll earlier s)) uri data
  /-- Nothing is added under a locator for which all calls of a request fail. -/
  failed : ∀ earlier request later, requests = earlier ++ request :: later →
    ∀ e ∈ p.events request (p.serveAll earlier s),
    (∀ e' ∈ p.events request (p.serveAll earlier s), e'.uri = e.uri →
      ∀ data, e'.answer ≠ .ok data) →
    (p.serve request (p.serveAll earlier s)).store.find? e.uri = none

/-- Whatever a session is asked to do, what is stored keeps its value, fetchers are asked and
    excerpts are cut only for what is not stored, and only what they give is stored. -/
theorem orderly_of_honest (hs : s.store.Honest) (requests : List Request) :
    p.Orderly requests s := by
  -- All seven parts are read off one course through the stores.
  have hleads := leads_history (p := p) hs requests
  have hearlier : ∀ earlier, (p.serveAll earlier s).store.Honest := fun earlier =>
    (leads_history hs earlier).honest hs
  refine {
    kept := hleads.pairwise_within
    keptBetween := ?_
    absent := hleads.absent
    once := hleads.pairwise_uri_ne
    noted := serveAll_noting requests s
    brought := ?_
    failed := ?_ }
  · rintro earlier later rfl
    rw [serveAll_append]
    exact (leads_history (hearlier earlier) later).within
  -- What is new after a request was answered by one of its events.
  · intro earlier request later _ uri data hbefore hafter
    obtain ⟨e, he, rfl, hanswer⟩ :=
      (leads_serve (hearlier earlier) request).exists_of_new hbefore hafter
    exact fetched_or_excerpted he (made_of_mem_events (hearlier earlier) he) hanswer
  · intro earlier request later _ e he hfails
    exact (leads_serve (hearlier earlier) request).find?_eq_none he hfails

/-- A document, a source that no fetcher has, and the document again. -/
def sampleRequests : List Request :=
  [.render sampleDocument, .resolve "b", .render sampleDocument]

/-- The sample requests are served in order, each key once. -/
theorem orderly_of_honest_sample :
    (⟨{}, ()⟩ : Session Unit).store.Honest ∧ sample.Orderly sampleRequests ⟨{}, ()⟩ ∧
      (sample.history sampleRequests ⟨{}, ()⟩).map Event.uri = ["a", "a.file.n", "b"] := by
  have hs : (⟨{}, ()⟩ : Session Unit).store.Honest := fun _ he => by cases he
  exact ⟨hs, orderly_of_honest hs sampleRequests, by decide +kernel⟩

end Processor

end Transclude
