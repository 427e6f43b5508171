import Transclude.Proofs.Document.Splice
import Transclude.Proofs.Resolver
import Transclude.Tool

/-!
# What is stored is not seen

Documents that are rendered one after another share a store.  None of them can
tell: each ends as it would in a session of its own (`renderEach_eq`), if no
locator stands for two things.

The invariant is `Faithful`: whatever is stored is what would be found or
excerpted afresh.  With it every directive has one outcome, which `shown` gives
without a session, and a document ends in the same way from any two sessions.
-/

namespace Transclude

/-- What the fetcher gives depends on the locator alone. -/
def Fetcher.Steady {σ : Type} (fetcher : Fetcher σ) : Prop :=
  ∀ uri w w', Action.outcome (fetcher uri w) = Action.outcome (fetcher uri w')

namespace Resolver

variable {σ : Type} {uri : String}

/-- Steady fetchers, asked in turn, give what depends on the locator alone. -/
theorem outcome_fetchFrom {fetchers : List (Fetcher σ)} (h : ∀ f ∈ fetchers, f.Steady)
    (causes : List Failure) (w w' : σ) :
    Action.outcome (fetchFrom uri causes fetchers w) =
      Action.outcome (fetchFrom uri causes fetchers w') := by
  induction fetchers generalizing causes w w' with
  | nil => rfl
  | cons fetcher rest ih =>
    have hhead := h fetcher List.mem_cons_self uri w w'
    have hrest := ih fun f hf => h f (List.mem_cons_of_mem _ hf)
    unfold fetchFrom
    -- From both worlds the first fetcher gives the same, or fails in the same way.
    cases hr : fetcher uri w with
    | ok data t =>
      cases hr' : fetcher uri w' with
      | ok data' t' => rw [hr, hr'] at hhead; exact hhead
      | error e t' => rw [hr, hr'] at hhead; cases hhead
    | error e t =>
      cases hr' : fetcher uri w' with
      | ok data t' => rw [hr, hr'] at hhead; cases hhead
      | error e' t' =>
        rw [hr, hr'] at hhead
        cases hhead
        cases he : e.isFetch with
        | true =>
          -- The next fetcher is asked.
          simp only [he, if_true]
          exact hrest (e :: causes) t t'
        | false =>
          simp only [he, Bool.false_eq_true, if_false]
          rfl

/-- A derived value is what is produced, if what is stored is so too. -/
theorem gives_derive {I : Session σ → Prop} {produce : Action (Session σ) ByteArray}
    {r : Except Failure ByteArray} (hreadable : ∀ s, I s → s.Readable)
    (hproduce : Action.Gives I produce r)
    (hfound : ∀ s data, I s → s.store.find? uri = some data → r = .ok data)
    (hstore : ∀ s data, I s → r = .ok data → I { s with store := s.store.store uri data }) :
    Action.Gives I (derive uri produce) r := by
  intro s hs
  unfold derive
  rw [lookup_of_readable (hreadable s hs)]
  cases hfind : s.store.find? uri with
  | some data => exact ⟨(hfound s data hs hfind).symm, hs⟩
  | none =>
    -- What fails is not stored, so the store stays as `produce` left it.
    obtain ⟨houtcome, hleft⟩ := hproduce s hs
    cases hr : produce s with
    | error e t =>
      rw [hr] at houtcome hleft
      exact ⟨houtcome, hleft⟩
    | ok data t =>
      rw [hr] at houtcome hleft
      exact ⟨houtcome, hstore t data hleft houtcome.symm⟩

end Resolver

/-! ## Locators that stand for one thing -/

namespace Directive

/-- No excerpt of the directives goes by the locator of a source, and those that share a locator are
    the same excerpt. -/
structure Unambiguous (directives : List Directive) : Prop where
  apart : ∀ d ∈ directives, ∀ e ∈ directives, d.snippetUri ≠ e.sourceUri
  same : ∀ d ∈ directives, ∀ e ∈ directives, d.snippetUri = e.snippetUri →
    d.source = e.source ∧ d.kind = e.kind ∧ d.name = e.name

namespace Unambiguous

variable {directives : List Directive}

/-- Fewer directives are still unambiguous. -/
theorem mono {fewer : List Directive} (h : Unambiguous directives) (hfewer : fewer ⊆ directives) :
    Unambiguous fewer :=
  ⟨fun d hd e he => h.apart d (hfewer hd) e (hfewer he),
    fun d hd e he => h.same d (hfewer hd) e (hfewer he)⟩

instance : Decidable (Unambiguous directives) :=
  decidable_of_iff
    ((∀ d ∈ directives, ∀ e ∈ directives, d.snippetUri ≠ e.sourceUri) ∧
      ∀ d ∈ directives, ∀ e ∈ directives, d.snippetUri = e.snippetUri →
        d.source = e.source ∧ d.kind = e.kind ∧ d.name = e.name)
    ⟨fun h => ⟨h.1, h.2⟩, fun h => ⟨h.1, h.2⟩⟩

end Unambiguous

/-- The directives among some lines. -/
def listed (lines : List String) : List Directive :=
  lines.flatMap fun line => (parse line).toOption.toList

end Directive

namespace Extractor

/-- The text under which the excerpt of a source is stored. -/
def cut (extractor : Extractor) (source name : String) (kind : Kind) : Except Failure String := do
  let snippet ← extractor.extract source name kind
  return extractor.serialize snippet

/-- The extractor cuts out a whole file as it is. -/
def CutsWhole (extractor : Extractor) : Prop :=
  ∀ source name, extractor.cut source name .file = .ok source

/-- The Go extractor cuts out whole files as they are. -/
theorem cutsWhole_go (lib : Go.Library) : (go lib).CutsWhole := by
  intro source name
  -- A snippet that is not braced and has no definition is stored as its body.
  show Except.ok ("" ++ source) = (.ok source : Except Failure String)
  rw [String.empty_append]

/-- So does a tool in its place. -/
theorem cutsWhole_tool (lib : Go.Library) (tool : Tool) : (tool.extractor lib).CutsWhole :=
  cutsWhole_go lib

/-- The YAML extractor cuts out whole files as they are. -/
theorem cutsWhole_yaml (lib : Yaml.Library) : (yaml lib).CutsWhole := by
  intro source name
  show Except.ok ("" ++ source) = (.ok source : Except Failure String)
  rw [String.empty_append]

/-- A kind that two languages have is cut in the same way by both. -/
theorem CutsWhole.cut_eq {l l' : Language} {extractor extractor' : Extractor} {kind : Kind}
    (h : extractor.CutsWhole) (h' : extractor'.CutsWhole) (hl : l ≠ l')
    (hkind : l.supports kind = true) (hkind' : l'.supports kind = true) (source name : String) :
    extractor.cut source name kind = extractor'.cut source name kind := by
  -- Whole files are all that two languages have in common.
  have hfile : kind = .file := by
    cases l <;> cases l' <;> cases kind <;> simp_all [Language.supports]
  rw [hfile, h, h']

end Extractor

namespace Processor

variable {σ : Type} {p : Processor σ} {d : Directive}

/-! ## What a directive gives afresh -/

/-- What is stored for a directive, where `found` are the sources. -/
def excerpted (found : String → Except Failure ByteArray) (extractor : Extractor) (d : Directive) :
    Except Failure ByteArray := do
  let data ← found d.sourceUri
  let source ← decode data
  let text ← extractor.cut source d.name d.kind
  return Text.encode text

/-- The code that a directive shows, where `found` are the sources. -/
def shown (p : Processor σ) (found : String → Except Failure ByteArray) (d : Directive) :
    Except Failure String :=
  match p.extractors d.language with
  | none => .error (.of (.noExtractor d.language))
  | some extractor =>
    if d.language.supports d.kind then do
      let data ← excerpted found extractor d
      let text ← decode data
      let snippet ← extractor.restore d.name d.kind text
      snippet.window d.start d.stop d.language.ellipsis
    else .error (.of (.kindOutsideLanguage d.kind d.language))

/-- `data` is what `uri` stands for among the directives: one of their sources or of their
    excerpts. -/
inductive Stands (p : Processor σ) (found : String → Except Failure ByteArray)
    (directives : List Directive) : (uri : String) → (data : ByteArray) → Prop where
  | source {d : Directive} {data : ByteArray} (hd : d ∈ directives)
    (hdata : found d.sourceUri = .ok data) : Stands p found directives d.sourceUri data
  | excerpt {d : Directive} {extractor : Extractor} {data : ByteArray} (hd : d ∈ directives)
    (hextractor : p.extractors d.language = some extractor)
    (hkind : d.language.supports d.kind = true) (hdata : excerpted found extractor d = .ok data) :
    Stands p found directives d.snippetUri data

/-- The store can be read and holds what its locators stand for. -/
structure Faithful (p : Processor σ) (found : String → Except Failure ByteArray)
    (directives : List Directive) (s : Session σ) : Prop where
  readable : s.Readable
  stands : ∀ {uri data}, s.store.find? uri = some data → p.Stands found directives uri data

section Faithful

variable {found : String → Except Failure ByteArray} {directives : List Directive}

/-- Nothing wrong is stored where nothing is stored. -/
theorem Faithful.empty (w : σ) : p.Faithful found directives ⟨{}, w⟩ :=
  ⟨rfl, fun h => by cases h⟩

/-- Storing what a locator stands for keeps the store faithful. -/
theorem Faithful.store {s : Session σ} (hs : p.Faithful found directives s) {uri : String}
    {data : ByteArray} (h : p.Stands found directives uri data) :
    p.Faithful found directives { s with store := s.store.store uri data } := by
  refine ⟨hs.readable, fun {other bytes} hother => ?_⟩
  by_cases he : other = uri
  · subst he
    rw [Store.find?_store_self, Option.some.injEq] at hother
    rwa [← hother]
  · rw [Store.find?_store_of_ne he] at hother
    exact hs.stands hother

variable (hunambiguous : Directive.Unambiguous directives)
include hunambiguous

/-- The locator of a source stands for the source. -/
theorem Stands.found_eq (hd : d ∈ directives) {data : ByteArray}
    (h : p.Stands found directives d.sourceUri data) : found d.sourceUri = .ok data := by
  generalize huri : d.sourceUri = uri at h
  cases h with
  | source _ hdata => exact hdata
  | excerpt he => exact absurd huri.symm (hunambiguous.apart _ he d hd)

/-- The locator of an excerpt stands for the excerpt, whatever the language was when it was cut. -/
theorem Stands.excerpted_eq (hwhole : ∀ l e, p.extractors l = some e → e.CutsWhole)
    {extractor : Extractor} (hd : d ∈ directives)
    (hextractor : p.extractors d.language = some extractor)
    (hkind : d.language.supports d.kind = true) {data : ByteArray}
    (h : p.Stands found directives d.snippetUri data) :
    excerpted found extractor d = .ok data := by
  generalize huri : d.snippetUri = uri at h
  cases h with
  | source he => exact absurd huri (hunambiguous.apart d hd _ he)
  | @excerpt e extractor' _ he hextractor' hkind' hdata =>
    -- Another directive may have stored it, in another language.
    obtain ⟨hsource, hkinds, hname⟩ := hunambiguous.same d hd e he huri
    have hcut : ∀ source, extractor.cut source d.name d.kind =
      extractor'.cut source e.name e.kind := by
      intro source
      rw [← hkinds, ← hname]
      by_cases hl : d.language = e.language
      · rw [hl, hextractor'] at hextractor
        cases hextractor
        rfl
      · rw [← hkinds] at hkind'
        exact (hwhole _ _ hextractor).cut_eq (hwhole _ _ hextractor') hl hkind hkind' source d.name
    rw [← hdata]
    simp only [excerpted, Directive.sourceUri, hsource, hcut]

/-! ## What a directive gives in a faithful session -/

variable (hwhole : ∀ l e, p.extractors l = some e → e.CutsWhole)
  (hfound : ∀ uri w, Action.outcome (Resolver.fetchFrom uri [] p.fetchers w) = found uri)
include hwhole hfound

omit hwhole in

/-- A source that is asked for is found as it is. -/
private theorem gives_resolve (hd : d ∈ directives) :
    Action.Gives (p.Faithful found directives) (Resolver.resolve p.fetchers d.sourceUri)
      (found d.sourceUri) := by
  -- What is stored under the key of a source is that source, and what is fetched is stored.
  refine Resolver.gives_derive (fun _ hs => hs.readable) ?_
    (fun s data hs h => (hs.stands h).found_eq hunambiguous hd)
    (fun s data hs h => hs.store (.source hd h))
  intro s hs
  have houtcome := hfound d.sourceUri s.world
  unfold Session.outside Action.within
  cases hr : Resolver.fetchFrom d.sourceUri [] p.fetchers s.world with
  | ok data w =>
    rw [hr] at houtcome
    exact ⟨houtcome, hs.readable, hs.stands⟩
  | error e w =>
    rw [hr] at houtcome
    exact ⟨houtcome, hs.readable, hs.stands⟩

omit hwhole in

/-- An excerpt that is asked for is cut out as it is. -/
private theorem gives_excerpt (hd : d ∈ directives) (extractor : Extractor) :
    Action.Gives (p.Faithful found directives) (p.excerpt extractor d)
      (excerpted found extractor d) := by
  refine (gives_resolve hunambiguous hfound hd).bind fun data => ?_
  refine (Action.Gives.ofExcept _).bind fun source => ?_
  unfold Extractor.cut
  rw [bind_assoc]
  exact (Action.Gives.ofExcept _).bind fun snippet => .ofExcept (.ok _)

/-- What a directive shows does not depend on what is stored. -/
theorem gives_code (hd : d ∈ directives) :
    Action.Gives (p.Faithful found directives) (p.code d) (p.shown found d) := by
  unfold Processor.code Processor.snippet shown
  cases hextractor : p.extractors d.language with
  -- Without an extractor or the kind, the failure is the same in all sessions.
  | none => exact fun s hs => ⟨rfl, hs⟩
  | some extractor =>
    cases hkind : d.language.supports d.kind with
    | false => exact fun s hs => ⟨rfl, hs⟩
    | true =>
      simp only [if_true, bind_assoc]
      -- Cut out anew or taken from the store, the excerpt is the same, as it is the only one with
      -- its key.
      refine (Resolver.gives_derive (fun _ hs => hs.readable)
        (gives_excerpt hunambiguous hfound hd extractor) (fun s data hs h => ?_)
        (fun s data hs h => hs.store (.excerpt hd hextractor hkind h))).bind fun data => ?_
      · exact (hs.stands h).excerpted_eq hunambiguous hwhole hd hextractor hkind
      · exact (Action.Gives.ofExcept _).bind fun text => (Action.Gives.ofExcept _).bind fun _ =>
          .ofExcept _

/-! ## From two sessions -/

/-- A directive line is followed by the same from any two faithful sessions. -/
theorem agrees_splice {line : String} (rest : List String)
    (hd : ∀ d, Directive.parse line = .ok d → d ∈ directives) {s s' : Session σ}
    (hs : p.Faithful found directives s) (hs' : p.Faithful found directives s') :
    Action.Agrees (p.Faithful found directives) (p.splice line rest) s s' := by
  unfold splice
  cases hparse : Directive.parse line with
  | error e => exact ⟨rfl, hs, hs'⟩
  | ok d =>
    -- The code is given, and nothing behind it looks at the store.
    have hcode := gives_code hunambiguous hwhole hfound (hd d hparse)
    refine ((Action.Agrees.of_gives hcode hs hs').bind fun {code _ _} _ ht ht' => ?_).withContext _
    have hwrite := Action.Agrees.of_gives (.ofExcept (CodeBlock.write line d.language code)) ht ht'
    refine hwrite.bind fun _ hu hu' => ?_
    have hskip := Action.Agrees.of_gives
      (.ofExcept (CodeBlock.skip rest 0 d.snippetUri)) hu hu'
    exact hskip.bind fun _ hv hv' => .pure _ hv hv'

end Faithful

/-! ## Directives that are met -/

/-- The directives among the lines that rendering them comes to, and the last of them may fail;
    `passing` lines belong to a block that has been replaced. -/
def metLines (p : Processor σ) : (passing : Nat) → List String → Session σ → List Directive
  | _, [], _ => []
  | passing + 1, _ :: rest, s => p.metLines passing rest s
  | 0, line :: rest, s =>
    if Directive.marked line then
      (Directive.parse line).toOption.toList ++
        match p.splice line rest s with
        | .ok (_, old) t => p.metLines old rest t
        | .error _ _ => []
    else p.metLines 0 rest s

/-- The directives that rendering a document comes to. -/
def met (p : Processor σ) (document : String) (s : Session σ) : List Directive :=
  if document.isEmpty then [] else p.metLines 0 (Text.lines document) s

/-- How each of several documents ends, rendered in turn in one session, whatever became of those
    before. -/
def renderEach (p : Processor σ) : List String → Session σ → List (Except Failure String)
  | [], _ => []
  | document :: rest, s =>
    Action.outcome (p.render document s) :: p.renderEach rest (Action.left (p.render document s))

/-- The directives that rendering the documents in turn comes to. -/
def metEach (p : Processor σ) : List String → Session σ → List Directive
  | [], _ => []
  | document :: rest, s =>
    p.met document s ++ p.metEach rest (Action.left (p.render document s))

/-- What is met is written in the lines. -/
theorem metLines_subset (passing : Nat) (lines : List String) (s : Session σ) :
    p.metLines passing lines s ⊆ Directive.listed lines := by
  induction lines generalizing passing s with
  | nil => exact List.nil_subset _
  | cons line rest ih =>
    have hrest : Directive.listed rest ⊆ Directive.listed (line :: rest) :=
      List.subset_append_right _ _
    -- A line that is passed over is listed, but not met.
    cases passing with
    | succ passing => exact List.Subset.trans (ih passing s) hrest
    | zero =>
      unfold metLines
      split
      · refine List.append_subset.2 ⟨List.subset_append_left _ _, ?_⟩
        -- A directive that fails ends the rendering, and a document goes on otherwise.
        split
        · exact List.Subset.trans (ih _ _) hrest
        · exact List.nil_subset _
      · exact List.Subset.trans (ih 0 s) hrest

/-- What is met is written in the document. -/
theorem met_subset (document : String) (s : Session σ) :
    p.met document s ⊆ Directive.listed (Text.lines document) := by
  unfold met
  split
  · exact List.nil_subset _
  · exact metLines_subset 0 _ s

/-- What is met is written in the documents. -/
theorem metEach_subset (documents : List String) (s : Session σ) :
    p.metEach documents s ⊆
      documents.flatMap fun document => Directive.listed (Text.lines document) := by
  induction documents generalizing s with
  | nil => exact List.nil_subset _
  | cons document rest ih =>
    refine List.append_subset.2 ⟨?_, List.Subset.trans (ih _) (List.subset_append_right _ _)⟩
    exact List.Subset.trans (met_subset document s) (List.subset_append_left _ _)

section Faithful

variable {found : String → Except Failure ByteArray} {directives : List Directive}
  (hunambiguous : Directive.Unambiguous directives)
  (hwhole : ∀ l e, p.extractors l = some e → e.CutsWhole)
  (hfound : ∀ uri w, Action.outcome (Resolver.fetchFrom uri [] p.fetchers w) = found uri)
include hunambiguous hwhole hfound

/-- Lines end in the same way from any two faithful sessions. -/
theorem agrees_renderLines {lines : List String} (number : Nat) {passing : Nat} {s s' : Session σ}
    (hmet : p.metLines passing lines s ⊆ directives) (hs : p.Faithful found directives s)
    (hs' : p.Faithful found directives s') :
    Action.Agrees (p.Faithful found directives) (p.renderLines number passing lines) s s' := by
  induction lines generalizing number passing s s' with
  | nil => exact ⟨rfl, hs, hs'⟩
  | cons line rest ih =>
    cases passing with
    | succ passing => exact ih (number + 1) hmet hs hs'
    | zero =>
      unfold renderLines
      cases hline : Directive.marked line with
      | false =>
        simp only [metLines, hline, Bool.false_eq_true, if_false] at hmet
        exact (ih (number + 1) hmet hs hs').bind fun _ ht ht' => .pure _ ht ht'
      | true =>
        simp only [metLines, hline, if_true] at hmet
        obtain ⟨hparse, htail⟩ := List.append_subset.1 hmet
        have hd : ∀ d, Directive.parse line = .ok d → d ∈ directives := by
          intro d hd
          apply hparse
          rw [hd]
          exact List.mem_singleton_self d
        -- Both sessions come to the same lines, so the rest is met in both.
        have hsplice := agrees_splice hunambiguous hwhole hfound rest hd hs hs'
        simp only [if_true]
        refine (hsplice.withContext _).bind fun {x t t'} hx ht ht' => ?_
        rw [Action.withContext_eq_ok_iff] at hx
        rw [hx] at htail
        exact (ih (number + 1) htail ht ht').bind fun _ hu hu' => .pure _ hu hu'

/-- A document ends in the same way from any two faithful sessions. -/
theorem agrees_render {document : String} {s s' : Session σ}
    (hmet : p.met document s ⊆ directives) (hs : p.Faithful found directives s)
    (hs' : p.Faithful found directives s') :
    Action.Agrees (p.Faithful found directives) (p.render document) s s' := by
  unfold render
  unfold met at hmet
  cases hempty : document.isEmpty with
  | true => exact ⟨rfl, hs, hs'⟩
  | false =>
    simp only [hempty, Bool.false_eq_true, if_false] at hmet ⊢
    exact agrees_renderLines hunambiguous hwhole hfound 1 hmet hs hs'

/-- Each document of a sequence ends as it does from any faithful session. -/
theorem renderEach_of_faithful {documents : List String} {s s' : Session σ}
    (hmet : p.metEach documents s ⊆ directives) (hs : p.Faithful found directives s)
    (hs' : p.Faithful found directives s') :
    p.renderEach documents s =
      documents.map fun document => Action.outcome (p.render document s') := by
  induction documents generalizing s with
  | nil => rfl
  | cons document rest ih =>
    obtain ⟨hhead, htail⟩ := List.append_subset.1 hmet
    -- The document may have failed: the session that it leaves is faithful all the same.
    obtain ⟨houtcome, hleft, -⟩ := agrees_render hunambiguous hwhole hfound hhead hs hs'
    rw [renderEach, List.map_cons, houtcome, ih htail hleft]

end Faithful

/-- Documents that are rendered one after another in a new session end as each of them does alone in
    a new session, with the same output or the same failure: as long as no locator stands for two
    things among the directives met, the order of the documents, directives that come again and
    documents that failed make no difference. -/
theorem renderEach_eq (hfetchers : ∀ f ∈ p.fetchers, f.Steady)
    (hwhole : ∀ l e, p.extractors l = some e → e.CutsWhole) {documents : List String} {w : σ}
    (hunambiguous : Directive.Unambiguous (p.metEach documents ⟨{}, w⟩)) (w' : σ) :
    p.renderEach documents ⟨{}, w⟩ =
      documents.map fun document => Action.outcome (p.render document ⟨{}, w'⟩) :=
  renderEach_of_faithful hunambiguous hwhole
    (fun _ _ => Resolver.outcome_fetchFrom hfetchers [] _ w)
    (List.Subset.refl _) (.empty w) (.empty w')

/-- A document that fails, one that renders, and one that asks for the same file in another
    language. -/
def sampleDocuments : List String :=
  ["<!-- pluck(\"yaml\", \"file\", \"n\", \"b\", 0, 0) -->", sampleDocument,
    "<!-- pluck(\"golang\", \"file\", \"n\", \"a\", 0, 0) -->"]

set_option maxRecDepth 4000 in

/-- The sample documents render as each would with a new processor. -/
theorem renderEach_eq_sample :
    (∀ f ∈ sample.fetchers, f.Steady) ∧
      (∀ l e, sample.extractors l = some e → e.CutsWhole) ∧
      Directive.Unambiguous (sample.metEach sampleDocuments ⟨{}, ()⟩) ∧
      sample.renderEach sampleDocuments ⟨{}, ()⟩ =
        sampleDocuments.map fun document =>
          Action.outcome (sample.render document ⟨{}, ()⟩) := by
  have hfetchers : ∀ f ∈ sample.fetchers, f.Steady := fun _ _ _ _ _ => rfl
  have hwhole : ∀ l e, sample.extractors l = some e → e.CutsWhole := by
    intro l e h
    cases l with
    | go => cases h; exact Extractor.cutsWhole_go _
    | yaml => cases h; exact Extractor.cutsWhole_yaml _
  -- Three directives are listed, and their keys are different.
  have hlisted : (sampleDocuments.flatMap fun document => Directive.listed (Text.lines document)) =
      [⟨.yaml, .file, "n", "b", 0, 0⟩, ⟨.yaml, .file, "n", "a", 0, 0⟩,
        ⟨.go, .file, "n", "a", 0, 0⟩] := by decide
  have hunambiguous : Directive.Unambiguous (sample.metEach sampleDocuments ⟨{}, ()⟩) := by
    refine Directive.Unambiguous.mono ?_ (metEach_subset _ _)
    rw [hlisted]
    decide
  exact ⟨hfetchers, hwhole, hunambiguous, renderEach_eq hfetchers hwhole hunambiguous ()⟩

end Processor

end Transclude
