import Transclude.Proofs.Document.Return
import Transclude.Proofs.Go.Restore
import Transclude.Proofs.Go.Return
import Transclude.Proofs.Snippet
import Transclude.Proofs.Yaml.Return
import Transclude.Yaml.BuiltIn

/-!
# Line endings

A document with carriage returns, over sources with carriage returns, renders to the same text with
carriage returns (`render_withReturns`), if the libraries read the sources like those without
(`Directive.ReadsAlike`) and what each directive shows keeps to its lines (`Directive.Keeps`).

That is not so for most declarations: a body starts on the line behind its opening brace, and the
newline there is no part of the excerpt, but a carriage return and a newline are.  So a block has
one more line with carriage returns (`render_withReturns_ne`).
-/

namespace Transclude

variable {go : Go.Library} {yaml : Yaml.Library} {d : Directive} {source : String}
  {snippet : Snippet}

/-! ## What is stored and restored -/

namespace Extractor

/-- The extractor of a language, with the libraries that read the languages. -/
def of (go : Go.Library) (yaml : Yaml.Library) : Language → Extractor
  | .go => .go go
  | .yaml => .yaml yaml

/-- Both extractors cut out whole files as they are. -/
private theorem cutsWhole_of (l : Language) : (of go yaml l).CutsWhole := by
  cases l
  · exact cutsWhole_go go
  · exact cutsWhole_yaml yaml

/-- An excerpt is restored from the text under which it is stored, if declarations of the source are
    read by themselves like in the source. -/
theorem restore_serialize {l : Language} {kind : Kind} {name : String}
    (hkind : l.supports kind = true)
    (hgo : kind = .type ∨ kind = .function → Go.Conforms go (Go.terminated source) ∧
      Go.Rereads go (Go.terminated source))
    (h : (of go yaml l).extract source name kind = .ok snippet) :
    (of go yaml l).restore name kind ((of go yaml l).serialize snippet) = .ok snippet := by
  -- A snippet without a definition is stored as its body.
  have hbody : ∀ body : String,
      (⟨name, "", "" ++ body, false⟩ : Snippet) = ⟨name, "", body, false⟩ := by
    simp
  cases l with
  | go =>
    have h : Go.extract go source name kind = .ok snippet := h
    show Go.restore go name kind (Go.serialize snippet) = .ok snippet
    cases kind with
    | file =>
      cases h
      exact congrArg Except.ok (hbody source)
    | type =>
      obtain ⟨hconforms, hrereads⟩ := hgo (.inl rfl)
      exact (Go.extract_restored (.inl rfl) hconforms hrereads h).1
    | function =>
      obtain ⟨hconforms, hrereads⟩ := hgo (.inr rfl)
      exact (Go.extract_restored (.inr rfl) hconforms hrereads h).1
    | node => cases hkind
  | yaml =>
    have h : Yaml.extract yaml source name kind = .ok snippet := h
    show Yaml.restore name (Yaml.serialize snippet) = .ok snippet
    cases kind with
    | file =>
      cases h
      exact congrArg Except.ok (hbody source)
    | node =>
      obtain ⟨-, -, -, body, -, -, -, rfl⟩ := Yaml.exists_of_extractNode h
      exact congrArg Except.ok (hbody body)
    | type | function => cases hkind

end Extractor

/-! ## What a directive shows -/

namespace Directive

/-- The directive shows its excerpt without the body. -/
def HidesBody (d : Directive) : Prop := d.start = -1 ∧ d.stop = -1

/-- The directive shows all of the body of its excerpt. -/
def ShowsBody (d : Directive) : Prop := d.start = 0 ∧ d.stop = 0

/-- The libraries read the source of a directive with carriage returns like the source without, and
    the declarations of both by themselves like in the source. -/
inductive ReadsAlike (go : Go.Library) (yaml : Yaml.Library) (d : Directive) (source : String) :
    Prop where
  | file (hkind : d.kind = .file)
  | declaration {place : Syntax.Node → Nat × Nat} (hkind : d.kind = .type ∨ d.kind = .function)
    (halike : Go.Alike go (Go.terminated source) (Go.terminated (withReturns source)) place)
    (hrereads : Go.Rereads go (Go.terminated source))
    (hrereads' : Go.Rereads go (Go.terminated (withReturns source)))
  | node (hkind : d.kind = .node) (halike : Yaml.Alike yaml source (withReturns source))

/-- What the directive shows of the source keeps to its lines: it starts with no newline, or all of
    a file is shown, or nothing of a body. -/
inductive Keeps (go : Go.Library) (d : Directive) (source : String) : Prop where
  | hidden (h : d.HidesBody)
  | whole (hkind : d.kind = .file) (h : d.ShowsBody)
  | lines (hkind : d.kind = .file) (hhead : source.toList.head? ≠ some '\n')
  | inline (hkind : d.kind = .type ∨ d.kind = .function) (h : Go.Inline go source d.name d.kind)
  | node (hkind : d.kind = .node)

/-- The declarations of a source are read by themselves like in the source. -/
theorem ReadsAlike.rereads (h : d.ReadsAlike go yaml source)
    (hkind : d.kind = .type ∨ d.kind = .function) :
    (Go.Conforms go (Go.terminated source) ∧ Go.Rereads go (Go.terminated source)) ∧
      Go.Conforms go (Go.terminated (withReturns source)) ∧
        Go.Rereads go (Go.terminated (withReturns source)) := by
  cases h with
  | file hfile | node hfile =>
    rcases hkind with hkind | hkind <;> rw [hkind] at hfile <;> cases hfile
  | declaration _ halike hrereads hrereads' =>
    exact ⟨⟨halike.conforms, hrereads⟩, halike.conforms', hrereads'⟩

/-- What stands behind a key and its colon does not start with a newline. -/
private theorem head?_keyed {key text : String} (hkey : '\n' ∉ key.toList) :
    (key ++ ":" ++ text).toList.head? ≠ some '\n' := by
  rw [String.toList_append, String.toList_append, List.append_assoc]
  cases hchars : key.toList with
  | nil => simp
  | cons c rest =>
    rintro ⟨⟩
    rw [hchars] at hkey
    exact hkey List.mem_cons_self

/-- From a source with carriage returns the directive gets an excerpt that shows the same. -/
theorem Keeps.extract_returned (h : d.Keeps go source) (hreads : d.ReadsAlike go yaml source)
    (hsource : '\r' ∉ source.toList) (hname : '\n' ∉ d.name.toList ∧ '\r' ∉ d.name.toList)
    (hkind : d.language.supports d.kind = true)
    (hextract : (Extractor.of go yaml d.language).extract source d.name d.kind = .ok snippet) :
    ∃ snippet', (Extractor.of go yaml d.language).extract (withReturns source) d.name d.kind =
        .ok snippet' ∧ snippet.Matches snippet' d.start d.stop := by
  have hreturned := Returned.withReturns hsource
  cases hreads with
  | file hfile =>
    -- Every extractor gives the whole source as the body.
    have hcut : ∀ source, (Extractor.of go yaml d.language).extract source d.name d.kind =
        .ok { name := d.name, body := source } := by
      intro source
      rw [hfile]
      cases d.language <;> rfl
    rw [hcut] at hextract ⊢
    cases hextract
    refine ⟨_, rfl, rfl, .nil, ?_⟩
    cases h with
    | hidden h => exact .nothing h
    | whole _ h => exact .whole h hreturned
    | lines _ h => exact .lines h hreturned
    | inline hkind => rcases hkind with hkind | hkind <;> rw [hkind] at hfile <;> cases hfile
    | node hkind => rw [hkind] at hfile; cases hfile
  | declaration hdeclaration halike =>
    -- Declarations are supported for Go only.
    have hgo : d.language = .go := by
      rcases hdeclaration with hk | hk <;> rw [hk] at hkind <;> revert hkind <;>
        cases d.language <;> decide
    rw [hgo] at hextract ⊢
    obtain ⟨snippet', hextract', hbraced, hdefinition, hinline⟩ :=
      Go.extract_alike hdeclaration halike hreturned hname.1 hextract
    refine ⟨snippet', hextract', hbraced, hdefinition, ?_⟩
    -- The body is hidden, or it keeps to its lines behind the brace.
    cases h with
    | hidden h => exact .nothing h
    | inline _ h => exact .lines (hinline h).1 (hinline h).2
    | whole hfile | lines hfile | node hfile =>
      rcases hdeclaration with hk | hk <;> rw [hk] at hfile <;> cases hfile
  | node hnode halike =>
    -- Nodes are supported for YAML only, and the excerpt is the same.
    have hyaml : d.language = .yaml := by
      rw [hnode] at hkind
      revert hkind
      cases d.language <;> decide
    have hcut : ∀ source, (Extractor.of go yaml .yaml).extract source d.name .node =
        Yaml.extractNode yaml source d.name := fun _ => rfl
    rw [hyaml, hnode, hcut] at hextract ⊢
    refine ⟨snippet, Yaml.extractNode_alike halike hextract, ?_⟩
    obtain ⟨key, text, rfl, hkey, htext⟩ := Yaml.excerpt_of_extractNode halike hextract
    refine ⟨rfl, .nil, .lines (head?_keyed fun hmem => hname.1 (hkey hmem)) (.refl ?_)⟩
    have hfree : '\r' ∉ key.toList := fun hmem => hname.2 (hkey hmem)
    simp [htext, hfree]

end Directive

/-! ## Documents -/

namespace Processor

variable {σ τ : Type} {p : Processor σ} {q : Processor τ}
  {found found' : String → Except Failure ByteArray} {code : String}

/-- The processor reads both languages itself, and its fetchers give the same at all times. -/
structure Plain (go : Go.Library) (yaml : Yaml.Library) (p : Processor σ) : Prop where
  extractors : ∀ l, p.extractors l = some (.of go yaml l)
  fetchers : ∀ f ∈ p.fetchers, f.Steady

/-- The extractors of a plain processor cut out whole files as they are. -/
private theorem Plain.cutsWhole (hp : p.Plain go yaml) :
    ∀ l e, p.extractors l = some e → e.CutsWhole := by
  intro l e he
  rw [hp.extractors, Option.some.injEq] at he
  exact he ▸ Extractor.cutsWhole_of l

/-- Data decodes to a text if it encodes that text. -/
private theorem decode_eq_ok_iff {data : ByteArray} {text : String} :
    decode data = .ok text ↔ data = Text.encode text := by
  constructor
  · intro h
    unfold decode at h
    split at h
    · rename_i hdata
      cases h
      exact Text.eq_encode_of_decode hdata
    · cases h
  · rintro rfl
    rw [decode, Text.decode_encode]

/-- What a directive shows is a window of its excerpt, if excerpts are restored as they were. -/
theorem shown_eq_ok_iff {extractor : Extractor}
    (hextractor : p.extractors d.language = some extractor)
    (hrestore : ∀ source snippet, found d.sourceUri = .ok (Text.encode source) →
      d.language.supports d.kind = true → extractor.extract source d.name d.kind = .ok snippet →
        extractor.restore d.name d.kind (extractor.serialize snippet) = .ok snippet) :
    p.shown found d = .ok code ↔ d.language.supports d.kind = true ∧
      ∃ source snippet, found d.sourceUri = .ok (Text.encode source) ∧
        extractor.extract source d.name d.kind = .ok snippet ∧
        snippet.window d.start d.stop d.language.ellipsis = .ok code := by
  rw [shown, hextractor]
  dsimp only
  cases hkind : d.language.supports d.kind with
  | false => simp
  | true =>
    simp only [if_true, true_and, excerpted, Extractor.cut, except_bind_eq_ok_iff, decode_eq_ok_iff]
    constructor
    · rintro ⟨_, ⟨_, hfound, source, rfl, _, ⟨snippet, hextract, ⟨⟩⟩, ⟨⟩⟩, stored, hstored,
        restored, hrestored, hwindow⟩
      -- What is stored is the written snippet, and it is restored as it was.
      obtain rfl := Text.encode_inj.1 hstored
      rw [hrestore source snippet hfound hkind hextract] at hrestored
      cases hrestored
      exact ⟨source, snippet, hfound, hextract, hwindow⟩
    · rintro ⟨source, snippet, hfound, hextract, hwindow⟩
      exact ⟨_, ⟨_, hfound, source, rfl, _, ⟨snippet, hextract, rfl⟩, rfl⟩, _, rfl, _,
        hrestore source snippet hfound hkind hextract, hwindow⟩

/-- Over sources with carriage returns, what a directive shows is the same up to carriage
    returns. -/
theorem shown_returned (hp : ∀ l, p.extractors l = some (.of go yaml l))
    (hq : ∀ l, q.extractors l = some (.of go yaml l))
    (hname : '\n' ∉ d.name.toList ∧ '\r' ∉ d.name.toList)
    (hsources : ∀ source, found d.sourceUri = .ok (Text.encode source) → '\r' ∉ source.toList ∧
      d.ReadsAlike go yaml source ∧ d.Keeps go source ∧
        found' d.sourceUri = .ok (Text.encode (withReturns source)))
    (h : p.shown found d = .ok code) :
    ∃ code', q.shown found' d = .ok code' ∧ withoutPairs code' = code := by
  obtain ⟨hkind, source, snippet, hfound, hextract, hwindow⟩ := (shown_eq_ok_iff (hp _)
    fun source snippet hfound hkind hextract => Extractor.restore_serialize hkind
      (fun hgo => ((hsources source hfound).2.1.rereads hgo).1) hextract).1 h
  obtain ⟨hsource, hreads, hkeeps, hfound'⟩ := hsources source hfound
  obtain ⟨snippet', hextract', hmatches⟩ :=
    hkeeps.extract_returned hreads hsource hname hkind hextract
  have hellipsis : '\r' ∉ d.language.ellipsis.toList := by
    cases d.language <;> decide
  obtain ⟨code', hwindow', hcode⟩ := Snippet.window_returned hmatches hellipsis hwindow
  refine ⟨code', (shown_eq_ok_iff (hq _) ?_).2 ⟨hkind, _, snippet', hfound', hextract', hwindow'⟩,
    hcode.withoutPairs_eq⟩
  -- The other source is known, and its declarations are read like in the source.
  intro other snippet hother hkind hextract
  rw [hfound'] at hother
  obtain rfl := Text.encode_inj.1 (Except.ok.inj hother)
  exact Extractor.restore_serialize hkind (fun hgo => (hreads.rereads hgo).2) hextract

/-- The name of an excerpt that a document asks for is on one line of it. -/
theorem name_of_mem_met {document : String} {s : Session σ} (h : d ∈ p.met document s) :
    '\n' ∉ d.name.toList ∧ d.name.toList ⊆ document.toList := by
  obtain ⟨line, hline, hparse⟩ := List.mem_flatMap.1 (met_subset document s h)
  have hd : Directive.parse line = .ok d := by
    cases hparsed : Directive.parse line with
    | error e =>
      rw [hparsed] at hparse
      cases hparse
    | ok d' =>
      rw [hparsed] at hparse
      rw [List.mem_singleton.1 hparse]
  have hname := Directive.name_subset hd
  refine ⟨fun hmem => Text.newline_not_mem_of_mem_lines hline (hname hmem), fun c hc => ?_⟩
  exact Text.subset_of_mem_lines hline (hname hc)

/-- A document with carriage returns renders over sources with carriage returns to what it renders
    to without any, with carriage returns: the same blocks, which show the same lines.  The
    directives that are met must each stand for one thing, the libraries must read the sources
    alike, and what is shown must keep to its lines. -/
theorem render_withReturns {document out : String} {w : σ} {v : τ} {s : Session σ}
    (hp : p.Plain go yaml) (hq : q.Plain go yaml) (hdocument : document.toList.getLast? = some '\n')
    (hfree : '\r' ∉ document.toList)
    (hunambiguous : Directive.Unambiguous (p.met document ⟨{}, w⟩))
    (hsources : ∀ d ∈ p.met document ⟨{}, w⟩, ∀ source,
      Action.outcome (Resolver.fetchFrom d.sourceUri [] p.fetchers w) = .ok (Text.encode source) →
        '\r' ∉ source.toList ∧ d.ReadsAlike go yaml source ∧ d.Keeps go source ∧
        Action.outcome (Resolver.fetchFrom d.sourceUri [] q.fetchers v) =
          .ok (Text.encode (withReturns source)))
    (h : p.render document ⟨{}, w⟩ = .ok out s) :
    ∃ s', q.render (withReturns document) ⟨{}, v⟩ = .ok (withReturns out) s' := by
  refine render_withReturns_of_shown hdocument hfree (.empty w) (.empty v)
    (fun d hd => gives_code hunambiguous hp.cutsWhole
      (fun _ _ => Resolver.outcome_fetchFrom hp.fetchers [] _ w) hd)
    (fun d hd => gives_code hunambiguous hq.cutsWhole
      (fun _ _ => Resolver.outcome_fetchFrom hq.fetchers [] _ v) hd)
    (fun d hd code hcode => shown_returned hp.extractors hq.extractors ?_ (hsources d hd) hcode) h
  -- The name of an excerpt is on one line of a document that holds no carriage return.
  obtain ⟨hline, hname⟩ := name_of_mem_met hd
  exact ⟨hline, fun hmem => hfree (hname hmem)⟩

/-! ## Documents over a table of sources -/

/-- A processor that reads both languages and knows the sources of a table. -/
def ofTable (table : List (String × String)) : Processor Unit where
  extractors l := some (.of Go.builtIn Yaml.builtIn l)
  fetchers := [fun uri => Action.ofExcept <|
    match table.lookup uri with
    | some source => .ok (Text.encode source)
    | none => .error (.about uri (.transport uri "gone"))]

/-- The table with carriage returns in its sources. -/
def returnedTable (table : List (String × String)) : List (String × String) :=
  table.map fun (uri, source) => (uri, withReturns source)

/-- A processor over a table reads both languages itself. -/
private theorem plain_ofTable (table : List (String × String)) :
    (ofTable table).Plain Go.builtIn Yaml.builtIn where
  extractors _ := rfl
  fetchers f hf := by
    rw [List.mem_singleton.1 hf]
    exact fun _ _ _ => rfl

/-- A processor over a table finds what the table holds. -/
private theorem outcome_ofTable {table : List (String × String)} {uri source : String} {w : Unit} :
    Action.outcome (Resolver.fetchFrom uri [] (ofTable table).fetchers w) =
    .ok (Text.encode source) ↔
      table.lookup uri = some source := by
  simp only [ofTable, Resolver.fetchFrom]
  cases table.lookup uri with
  | some known => simp [Action.outcome, Text.encode_inj]
  | none =>
    -- The source does not answer, and no other fetcher is left to be asked.
    have hfetch : (Failure.about uri (.transport uri "gone")).isFetch = true := rfl
    simp [Action.outcome, hfetch]

/-- A source of the table is there with carriage returns. -/
private theorem lookup_returnedTable {table : List (String × String)} {uri source : String}
    (h : table.lookup uri = some source) :
    (returnedTable table).lookup uri = some (withReturns source) := by
  induction table with
  | nil => cases h
  | cons entry rest ih =>
    obtain ⟨known, text⟩ := entry
    rw [List.lookup_cons] at h
    -- The addresses stay, so the lookup goes the same way.
    rw [returnedTable, List.map_cons, List.lookup_cons]
    cases hknown : uri == known with
    | true =>
      rw [hknown] at h
      exact congrArg _ (congrArg _ (Option.some.inj h))
    | false =>
      rw [hknown] at h
      exact ih h

/-- A mapping below a key. -/
def mappingText : String := "k:\n  a: v\n"

/-- The graph of `mappingText`. -/
def mappingGraph : Yaml.Graph :=
  #[.mapping Yaml.Tag.map false [(1, 2)], .scalar Yaml.Tag.str (Yaml.Content.ofChars ['k']) .plain,
    .mapping Yaml.Tag.map false [(3, 4)], .scalar Yaml.Tag.str (Yaml.Content.ofChars ['a']) .plain,
    .scalar Yaml.Tag.str (Yaml.Content.ofChars ['v']) .plain]

/-- The mapping is read alike with carriage returns, and nothing of it is written with any. -/
private theorem alike_mappingText :
    Yaml.Alike Yaml.builtIn mappingText (withReturns mappingText) := by
  have hcompose : Yaml.builtIn.compose mappingText = .ok (some (0, mappingGraph)) :=
    eq_ok_of_toOption (by decide +kernel)
  constructor
  · intro _ h
    rw [hcompose] at h
    cases h
    exact eq_ok_of_toOption (by decide +kernel)
  · intro root g g' text h
    rw [hcompose] at h
    cases h
    rintro ⟨i, hi, hinline, hserialize⟩
    -- The mapping has few nodes, and all that can be serialized of it can be looked at.
    have hall : ∀ i < mappingGraph.size,
        ∀ g' ∈ mappingGraph.inlinedFrom Yaml.builtIn.callDepth i,
          ∀ text ∈ (Yaml.builtIn.serialize g' i).toOption, '\r' ∉ text.toList := by
      decide +kernel
    exact hall i hi _ hinline _ (by rw [hserialize]; rfl)

/-- A function on several lines and a mapping. -/
def sampleSources : List (String × String) := [("a", Go.inlineText), ("b", mappingText)]

/-- A document that shows the function, the mapping and the file that the mapping is in. -/
def sampleBlocks : String :=
  "<!-- pluck(\"go\", \"function\", \"F\", \"a\", 0, 0) -->\n" ++
    "<!-- pluck(\"yaml\", \"node\", \"k\", \"b\", 0, 0) -->\n" ++
    "<!-- pluck(\"yaml\", \"file\", \"n\", \"b\", 0, 0) -->\n"

/-- A function, a mapping and a file are shown alike with carriage returns. -/
theorem render_withReturns_sample :
    ∃ out s s', (ofTable sampleSources).render sampleBlocks ⟨{}, ()⟩ = .ok out s ∧
      (ofTable (returnedTable sampleSources)).render (withReturns sampleBlocks) ⟨{}, ()⟩ =
        .ok (withReturns out) s' := by
  have hlisted : Directive.listed (Text.lines sampleBlocks) =
      [⟨.go, .function, "F", "a", 0, 0⟩, ⟨.yaml, .node, "k", "b", 0, 0⟩,
        ⟨.yaml, .file, "n", "b", 0, 0⟩] := by decide +kernel
  -- No more directives are met than are listed.
  have hmet : (ofTable sampleSources).met sampleBlocks ⟨{}, ()⟩ ⊆
      [⟨.go, .function, "F", "a", 0, 0⟩, ⟨.yaml, .node, "k", "b", 0, 0⟩,
        ⟨.yaml, .file, "n", "b", 0, 0⟩] := hlisted ▸ met_subset _ _
  have hkeeps : ∀ d ∈ (ofTable sampleSources).met sampleBlocks ⟨{}, ()⟩, ∀ source,
      sampleSources.lookup d.sourceUri = some source → '\r' ∉ source.toList ∧
        d.ReadsAlike Go.builtIn Yaml.builtIn source ∧ d.Keeps Go.builtIn source := by
    intro d hd source hsource
    have hd := hmet hd
    simp only [List.mem_cons, List.not_mem_nil, or_false] at hd
    rcases hd with rfl | rfl | rfl
    -- The function is read alike, and its body starts on the line of the brace.
    · obtain rfl : Go.inlineText = source := Option.some.inj hsource
      obtain ⟨halike, hrereads, hrereads', hinline⟩ := Go.alike_inlineText
      exact ⟨by decide, .declaration (.inr rfl) halike hrereads hrereads',
        .inline (.inr rfl) hinline⟩
    -- The mapping is read alike, too.
    · obtain rfl : mappingText = source := Option.some.inj hsource
      exact ⟨by decide, .node rfl alike_mappingText, .node rfl⟩
    -- The whole file is shown as it is.
    · obtain rfl : mappingText = source := Option.some.inj hsource
      exact ⟨by decide, .file rfl, .whole rfl ⟨rfl, rfl⟩⟩
  have hrun : (Action.outcome
      ((ofTable sampleSources).render sampleBlocks ⟨{}, ()⟩)).isOk = true := by decide +kernel
  cases hrender : (ofTable sampleSources).render sampleBlocks ⟨{}, ()⟩ with
  | error e s =>
    rw [hrender] at hrun
    cases hrun
  | ok out s =>
    -- The three keys are different.
    have hunambiguous : Directive.Unambiguous ((ofTable sampleSources).met sampleBlocks ⟨{}, ()⟩) :=
      .mono (by decide) hmet
    obtain ⟨s', hs'⟩ := render_withReturns (q := ofTable (returnedTable sampleSources)) (v := ())
      (plain_ofTable _) (plain_ofTable _) (by decide +kernel) (by decide +kernel) hunambiguous
      (fun d hd source hsource => by
        rw [outcome_ofTable] at hsource
        obtain ⟨hfree, hreads, hd⟩ := hkeeps d hd source hsource
        exact ⟨hfree, hreads, hd, outcome_ofTable.2 (lookup_returnedTable hsource)⟩) hrender
    exact ⟨out, s, s', rfl, hs'⟩

/-- A struct on several lines. -/
def sampleLines : List (String × String) := [("a", "type T struct \x7b\n\tX int\n\x7d\n")]

/-- A document that shows the struct. -/
def sampleBlock : String := "<!-- pluck(\"go\", \"type\", \"T\", \"a\", 0, 0) -->\n"

/-- With carriage returns the block has an empty line behind the opening brace. -/
theorem render_withReturns_ne :
    sampleBlock.toList.getLast? = some '\n' ∧ '\r' ∉ sampleBlock.toList ∧
      (∀ entry ∈ sampleLines, '\r' ∉ entry.2.toList) ∧
      ∃ out out', (Action.outcome ((ofTable sampleLines).render sampleBlock ⟨{}, ()⟩)).toOption =
          some out ∧
        (Action.outcome ((ofTable (returnedTable sampleLines)).render (withReturns sampleBlock)
          ⟨{}, ()⟩)).toOption = some out' ∧
        out = sampleBlock ++ "```go\ntype T struct \x7b\n\tX int\n\x7d\n```\n" ∧
        withoutPairs out' =
          sampleBlock ++ "```go\ntype T struct \x7b\n\n\tX int\n\x7d\n```\n" ∧
        out' ≠ withReturns out := by
  refine ⟨by decide, by decide, by decide, _, withReturns (sampleBlock ++
    "```go\ntype T struct \x7b\n\n\tX int\n\x7d\n```\n"), ?_, ?_, rfl, ?_, ?_⟩
  all_goals decide +kernel

end Processor

end Transclude
