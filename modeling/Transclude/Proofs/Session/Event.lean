import Transclude.Proofs.Document.Transparency

/-!
# What happens in a session

A session calls out in two ways: it asks a fetcher for a source, and it has an
excerpt cut out of a source.  Each such call is an `Event`, together with the store
as it was when the call was made.

The events of an action are read off along its course: where the action goes on
after a call, its events go on, and where it fails or finds what it needs in the
store, they end (`Resolver.deriveEvents`, `Processor.events`).  A session serves any
number of requests one after the other, and the events of all of them are its
history.
-/

namespace Transclude

/-- The store after `uri` has been asked for: what comes back is stored, and a failure changes
    nothing. -/
def Store.learn (s : Store) (uri : String) : Except Failure ByteArray → Store
  | .ok data => s.store uri data
  | .error _ => s

/-- A call out of a session, and the store when it was made. -/
inductive Event where
  /-- The fetcher with number `i` is asked for a source. -/
  | ask (store : Store) (i : Nat) (uri : String) (answer : Except Failure ByteArray)
  /-- The excerpt of a directive is cut out of a source. -/
  | cut (store : Store) (directive : Directive) (source : String) (answer : Except Failure String)

namespace Event

/-- The store when the call is made. -/
def store : Event → Store
  | ask store .. | cut store .. => store

/-- The locator of what is asked for. -/
def uri : Event → String
  | ask _ _ uri _ => uri
  | cut _ d _ _ => d.snippetUri

/-- The bytes that come back. -/
def answer : Event → Except Failure ByteArray
  | ask _ _ _ answer => answer
  | cut _ _ _ answer => answer.map Text.encode

/-- The store after the call. -/
def after (e : Event) : Store := e.store.learn e.uri e.answer

end Event

variable {σ : Type}

namespace Resolver

/-- The calls of the fetchers for one source, which have numbers from `i` on. -/
def fetchEvents (store : Store) (uri : String) : Nat → List (Fetcher σ) → σ → List Event
  | _, [], _ => []
  | i, fetcher :: rest, w =>
    .ask store i uri (Action.outcome (fetcher uri w)) ::
      match fetcher uri w with
      | .ok _ _ => []
      | .error e w => if e.isFetch then fetchEvents store uri (i + 1) rest w else []

/-- The events of `derive`, where `events` are those of the action that produces the value. -/
def deriveEvents (uri : String) (events : Session σ → List Event) (s : Session σ) : List Event :=
  match lookup s.store uri with
  | .ok none => events s
  | _ => []

/-- The events of `resolve`. -/
def resolveEvents (fetchers : List (Fetcher σ)) (uri : String) : Session σ → List Event :=
  deriveEvents uri fun s => fetchEvents s.store uri 0 fetchers s.world

end Resolver

namespace Processor

/-- The events of `excerpt`. -/
def excerptEvents (p : Processor σ) (extractor : Extractor) (d : Directive) (s : Session σ) :
    List Event :=
  Resolver.resolveEvents p.fetchers d.sourceUri s ++
    match Resolver.resolve p.fetchers d.sourceUri s with
    | .ok data t =>
      match decode data with
      | .ok source => [.cut t.store d source (extractor.cut source d.name d.kind)]
      | .error _ => []
    | .error _ _ => []

/-- Producing an excerpt is getting the source and then cutting, for which it takes no session. -/
theorem excerpt_apply {p : Processor σ} {s : Session σ} {d : Directive} (extractor : Extractor) :
    p.excerpt extractor d s =
      match Resolver.resolve p.fetchers d.sourceUri s with
      | .error e t => .error e t
      | .ok data t => Action.ofExcept (do
          let source ← decode data
          (extractor.cut source d.name d.kind).map Text.encode) t := by
  -- The cut does not read the session, so it stays as resolving the source leaves it.
  unfold excerpt
  rw [Action.bind_apply]
  cases Resolver.resolve p.fetchers d.sourceUri s with
  | error e t => rfl
  | ok data t =>
    dsimp only
    cases decode data with
    | error e => rfl
    | ok source =>
      rw [Action.bind_apply, Action.ofExcept_ok]
      change _ = Action.ofExcept ((extractor.cut source d.name d.kind).map Text.encode) t
      dsimp only
      rw [Extractor.cut, Action.bind_apply]
      cases extractor.extract source d.name d.kind <;> rfl

/-- The events of `snippet`. -/
def snippetEvents (p : Processor σ) (d : Directive) (s : Session σ) : List Event :=
  match p.extractors d.language with
  | none => []
  | some extractor =>
    if d.language.supports d.kind then
      Resolver.deriveEvents d.snippetUri (p.excerptEvents extractor d) s
    else []

/-- The events of `splice`: once there is a snippet, nothing is called. -/
def spliceEvents (p : Processor σ) (line : String) (s : Session σ) : List Event :=
  match Directive.parse line with
  | .error _ => []
  | .ok d => p.snippetEvents d s

/-- The events of `renderLines`. -/
def lineEvents (p : Processor σ) : (passing : Nat) → List String → Session σ → List Event
  | _, [], _ => []
  | passing + 1, _ :: rest, s => p.lineEvents passing rest s
  | 0, line :: rest, s =>
    if Directive.marked line then
      p.spliceEvents line s ++
        match p.splice line rest s with
        | .ok (_, old) t => p.lineEvents old rest t
        | .error _ _ => []
    else p.lineEvents 0 rest s

/-- The events of `render`. -/
def renderEvents (p : Processor σ) (document : String) (s : Session σ) : List Event :=
  if document.isEmpty then [] else p.lineEvents 0 (Text.lines document) s

end Processor

/-! ## Requests -/

/-- What a session is asked to do. -/
inductive Request where
  | render (document : String)
  | resolve (uri : String)

namespace Processor

/-- The session that a request leaves, whether it succeeds or fails. -/
def serve (p : Processor σ) : Request → Session σ → Session σ
  | .render document, s => Action.left (p.render document s)
  | .resolve uri, s => Action.left (Resolver.resolve p.fetchers uri s)

/-- The events of a request. -/
def events (p : Processor σ) : Request → Session σ → List Event
  | .render document, s => p.renderEvents document s
  | .resolve uri, s => Resolver.resolveEvents p.fetchers uri s

/-- The directives that a request comes to. -/
def metBy (p : Processor σ) : Request → Session σ → List Directive
  | .render document, s => p.met document s
  | .resolve _, _ => []

/-- The session that several requests leave, one after the other. -/
def serveAll (p : Processor σ) (requests : List Request) (s : Session σ) : Session σ :=
  requests.foldl (fun s request => p.serve request s) s

/-- Requests can be served in two parts. -/
theorem serveAll_append (p : Processor σ) (earlier later : List Request) (s : Session σ) :
    p.serveAll (earlier ++ later) s = p.serveAll later (p.serveAll earlier s) :=
  List.foldl_append

/-- The events of several requests, one after the other. -/
def history (p : Processor σ) : List Request → Session σ → List Event
  | [], _ => []
  | request :: rest, s => p.events request s ++ p.history rest (p.serve request s)

end Processor

end Transclude
