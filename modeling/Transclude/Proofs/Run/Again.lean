import Transclude.Proofs.Run.Event
import Transclude.Proofs.Session.Twin

/-!
# A run after a run

A run leaves documents that are up to date: a second run finds nothing to change
(`run_again`).  It lists the same documents, for a run adds no file; it reads what the
first run has made of them (`readDocument_of_replaces`); and it goes through the same
directives with the same store as the first one did, so it leaves each of them as it is
(`exists_renders_again`).

The files that sources are read from must not be among those that the first run has
written, and no excerpt may end its block early.
-/

namespace Transclude

open Transclude.Action (Alike)

variable {σ : Type} {p : Processor (World σ)}

/-! ## Where sources come from -/

/-- Someone who is asked for sources. -/
inductive Provider (σ : Type) where
  /-- The files below a directory. -/
  | disk (base : Path)
  /-- Someone who knows nothing of the files. -/
  | other (fetcher : Fetcher σ)

namespace Provider

/-- How a provider is asked. -/
def fetcher : Provider σ → Fetcher (World σ)
  | disk base => World.diskFetcher base
  | other fetcher => fun uri => World.beyond (fetcher uri)

/-- What the provider has depends on the locator alone, or is a file. -/
def Steady : Provider σ → Prop
  | disk _ => True
  | other fetcher => fetcher.Steady

/-- Providers do not change the tree. -/
theorem keepsTree_fetcher (provider : Provider σ) : provider.fetcher.KeepsTree := by
  cases provider with
  | disk base => exact Fetcher.keepsTree_diskFetcher base
  | other fetcher => exact Fetcher.keepsTree_beyond fetcher

end Provider

/-- A source that is not in a file that has changed is found as before. -/
theorem Disk.fetch_congr {base : Path} {tree tree' : FileTree} {uri : String}
    (houtline : tree'.outline = tree.outline)
    (hfile : ∀ data, Disk.fetch base tree uri = .ok data → ∀ place,
      tree.resolve (base.under (Path.ofString uri)) = .ok place →
      tree'.file? place = tree.file? place) :
    Disk.fetch base tree' uri = Disk.fetch base tree uri := by
  unfold Disk.fetch at hfile ⊢
  dsimp only at hfile ⊢
  -- The file can be read in both trees or in none, since the outline is the same.
  cases hread : tree.read (base.under (Path.ofString uri)) with
  | error obstacle => rw [FileTree.read_eq_error_congr houtline hread]
  | ok data =>
    rw [hread] at hfile
    rw [FileTree.read_congr houtline (hfile data rfl), hread]

namespace Run

variable {providers : List (Provider σ)} {tree tree' : FileTree}

/-- The place of the file that a call reads a source from, if it does. -/
def placeRead? (providers : List (Provider σ)) (tree : FileTree) : Event → Option Place
  | .ask _ i uri (.ok _) =>
    match providers[i]? with
    | some (.disk base) => (tree.resolve (base.under (Path.ofString uri))).toOption
    | _ => none
  | _ => none

/-- What the call reads from the files is the same in both trees. -/
def Undisturbed (providers : List (Provider σ)) (tree tree' : FileTree) (e : Event) : Prop :=
  ∀ place ∈ placeRead? providers tree e, tree'.file? place = tree.file? place

/-- The world has the one tree, and the other world has the other tree. -/
def Between (tree tree' : FileTree) (w w' : World σ) : Prop := w.tree = tree ∧ w'.tree = tree'

/-- Providers give the same in two worlds where the files that are read are the same. -/
theorem repeat_providers (houtline : tree'.outline = tree.outline)
    (hsteady : ∀ provider ∈ providers, provider.Steady) :
    Resolver.Repeat (providers.map Provider.fetcher) (Between tree tree')
      (Undisturbed providers tree tree') := by
  rintro store i uri fetcher w w' hfetcher ⟨htree, htree'⟩ hsafe
  rw [List.getElem?_map, Option.map_eq_some_iff] at hfetcher
  obtain ⟨provider, hprovider, rfl⟩ := hfetcher
  have hleft := (provider.keepsTree_fetcher uri w).trans htree
  have hleft' := (provider.keepsTree_fetcher uri w').trans htree'
  refine .of_outcome_eq ?_ ⟨hleft, hleft'⟩
  -- A provider that is not a disk does not look at the tree.
  cases provider with
  | other fetcher =>
    have hgives := hsteady _ (List.mem_of_getElem? hprovider) uri w.outside w'.outside
    simp only [Provider.fetcher, World.beyond, Action.outcome_within]
    exact hgives
  | disk base =>
    simp only [Provider.fetcher, World.diskFetcher, Action.outcome_ofExcept, htree,
      htree'] at hsafe ⊢
    -- A disk reads the one file, and that one is as it was.
    refine (Disk.fetch_congr houtline fun data hdata place hplace => hsafe place ?_).symm
    simp only [placeRead?, hdata, hprovider, hplace, Except.toOption]
    rfl

/-! ## What is listed and read -/

/-- The listing does not depend on what files hold. -/
private theorem listing_congr (houtline : tree'.outline = tree.outline) (directory : Path) :
    listing tree' directory = listing tree directory := by
  -- Whether a name leads to a file is read off the outline.
  have hfiles : ∀ names, filesAt tree' directory names = filesAt tree directory names := by
    intro names
    induction names with
    | nil => rfl
    | cons names rest ih => simp only [filesAt, fileAt, FileTree.isFile_congr houtline, ih]
  simp only [listing, FileTree.isDirectory_congr houtline, FileTree.resolve_congr houtline,
    FileTree.found_congr houtline, hfiles]

/-- A document is read where its path leads to a file that may be read and decodes. -/
theorem readDocument_eq_ok_iff {path : Path} {text : String} :
    readDocument tree path = .ok text ↔
      ∃ place data, tree.resolve path = .ok place ∧ tree.unreadable.contains place = false ∧
        tree.file? place = some data ∧ Text.decode data = .ok text := by
  unfold readDocument
  constructor
  · intro h
    cases hread : tree.read path with
    | error obstacle => rw [hread] at h; cases h
    | ok data =>
      -- A file is read when its path leads to a place that may be read.
      obtain ⟨place, hplace, hmay, hfile⟩ := FileTree.read_eq_ok_iff.1 hread
      rw [hread] at h
      dsimp only at h
      cases hdecode : Text.decode data with
      | error fault => rw [hdecode] at h; cases h
      | ok text' =>
        rw [hdecode] at h
        cases h
        exact ⟨place, data, hplace, hmay, hfile, hdecode⟩
  · rintro ⟨place, data, hplace, hmay, hfile, hdecode⟩
    simp only [FileTree.read_eq_ok_iff.2 ⟨place, hplace, hmay, hfile⟩, hdecode]

namespace Renders

variable {s t : Session (World σ)} {paths : List Path} {renderings : List Rendering}

/-- Every rendering starts from what its document said. -/
theorem readDocument (h : Renders p tree s paths renderings t) :
    ∀ r ∈ renderings, Run.readDocument tree r.path = .ok r.before := by
  induction h with
  | nil => simp
  | cons _ hread _ _ ih => exact List.forall_mem_cons.2 ⟨hread, ih⟩

/-- Each document is rendered at some point of the session. -/
theorem exists_session (hs : s.Readable) (h : Renders p tree s paths renderings t) :
    ∀ r ∈ renderings, ∃ u u', s.Grows u ∧ p.render r.before u = .ok r.after u' := by
  induction h with
  | nil => simp
  | @cons s s' s'' path paths before after renderings _ _ hrender _ ih =>
    -- The file comes in the session that the files before it leave.
    have hgrows := Processor.growing_of_render hs hrender
    refine List.forall_mem_cons.2 ⟨⟨s, s', .refl s, hrender⟩, fun r hr => ?_⟩
    obtain ⟨u, u', hu, hr⟩ := ih (hgrows.readable hs) r hr
    exact ⟨u, u', hgrows.trans hu, hr⟩

/-- The same text is rendered in the same way, wherever it stands. -/
theorem after_eq (hs : s.Readable) (h : Renders p tree s paths renderings t) :
    ∀ r ∈ renderings, ∀ r' ∈ renderings, r.before = r'.before → r.after = r'.after := by
  have hsymm : Std.Symm fun r r' : Rendering => r.before = r'.before → r.after = r'.after :=
    ⟨fun r r' hr he => (hr he.symm).symm⟩
  suffices hpairs : renderings.Pairwise fun r r' => r.before = r'.before → r.after = r'.after from
    fun r hr r' hr' => hpairs.forall_of_forall (fun _ _ _ => rfl) hr hr'
  induction h with
  | nil => exact .nil
  | @cons s s' s'' path paths before after renderings _ _ hrender hrest ih =>
    have hgrows := Processor.growing_of_render hs hrender
    refine .cons (fun r hr he => ?_) (ih (hgrows.readable hs))
    obtain ⟨u, u', hu, hr⟩ := hrest.exists_session (hgrows.readable hs) r hr
    obtain rfl : before = r.before := he
    -- What has been rendered once is rendered again without a change.
    rw [Processor.render_repeated hs hrender hu] at hr
    cases hr
    rfl

end Renders

/-- What a run has made of a document is what is read from it after the run. -/
theorem readDocument_of_replaces {s t : Session (World σ)} {paths : List Path}
    {renderings : List Rendering} (hs : s.Readable) (h : Renders p tree s paths renderings t)
    (hreplaces : Replaces tree ((renderings.filter Rendering.changed).map Rendering.output) tree') :
    ∀ r ∈ renderings, readDocument tree' r.path = .ok r.after := by
  intro r hr
  obtain ⟨place, data, hplace, hmay, hfile, hdecode⟩ :=
    readDocument_eq_ok_iff.1 (h.readDocument r hr)
  have hmay' : tree'.unreadable.contains place = false := by
    rw [FileTree.unreadable_congr hreplaces.outline, hmay]
  have hplace' : tree'.resolve r.path = .ok place := by
    rw [FileTree.resolve_congr hreplaces.outline, hplace]
  have hwritten := hreplaces.file? place
  unfold written? at hwritten
  cases hfind : ((renderings.filter Rendering.changed).map Rendering.output).reverse.find?
      (isFor tree place) with
  | some piece =>
    -- The file has been written, perhaps under another path, but with the same text.
    obtain ⟨r', hr', rfl⟩ :=
      List.mem_map.1 (List.mem_reverse.1 (List.mem_of_find?_eq_some hfind))
    rw [hfind] at hwritten
    replace hwritten : tree'.file? place = some (Text.encode r'.after) := hwritten
    replace hr' := (List.mem_filter.1 hr').1
    have hplace'' := isFor_iff.1 (List.find?_some hfind)
    rw [Rendering.fst_output] at hplace''
    have hread : readDocument tree r'.path = .ok r.before :=
      readDocument_eq_ok_iff.2 ⟨place, data, hplace'', hmay, hfile, hdecode⟩
    have hbefore : r'.before = r.before := by
      rw [h.readDocument r' hr', Except.ok.injEq] at hread
      exact hread
    rw [h.after_eq hs r' hr' r hr hbefore] at hwritten
    exact readDocument_eq_ok_iff.2 ⟨place, _, hplace', hmay', hwritten, Text.decode_encode _⟩
  | none =>
    -- The file has not been written, so the document has not changed.
    rw [hfind] at hwritten
    have hsame : r.before = r.after := by
      by_contra hne
      have hchanged : r ∈ renderings.filter Rendering.changed :=
        List.mem_filter.2 ⟨hr, by simpa [Rendering.changed] using hne⟩
      exact List.find?_eq_none.1 hfind r.output
        (List.mem_reverse.2 (List.mem_map_of_mem hchanged)) (isFor_iff.2 (by simpa using hplace))
    rw [← hsame]
    exact readDocument_eq_ok_iff.2 ⟨place, data, hplace', hmay', hwritten.trans hfile, hdecode⟩

/-! ## Rendering again -/

/-- Rendering the documents at the paths in turn puts `code` into one of them. -/
inductive SplicesInto (p : Processor (World σ)) (code : String) :
    List Path → Session (World σ) → Prop where
  | here {path : Path} {rest : List Path} {s : Session (World σ)} {before : String}
    (hread : readDocument s.tree path = .ok before) (hcode : p.Splices before s code) :
    SplicesInto p code (path :: rest) s
  | later {path : Path} {rest : List Path} {s t : Session (World σ)} {r : Rendering}
    (hfile : renderFile p path s = .ok r t) (hrest : SplicesInto p code rest t) :
    SplicesInto p code (path :: rest) s

/-- A document that has been rendered is left as it is. -/
def Rendering.settled (r : Rendering) : Rendering := ⟨r.path, r.after, r.after⟩

/-- Documents that have been rendered in one session are left as they are in its twin. -/
theorem exists_renders_again {Safe : Event → Prop}
    (hrepeat : Resolver.Repeat p.fetchers (Between tree tree') Safe)
    {paths : List Path} {renderings : List Rendering} {s s' t : Session (World σ)}
    (h : Renders p tree s paths renderings t)
    (hread : ∀ r ∈ renderings, readDocument tree' r.path = .ok r.after)
    (hcode : ∀ code, SplicesInto p code paths s → CodeBlock.Unfenced code)
    (hsafe : ∀ e ∈ allEvents p paths s, Safe e) (hs : s.Twins (Between tree tree') s') :
    ∃ t', Renders p tree' s' paths (renderings.map Rendering.settled) t' ∧
      t.Twins (Between tree tree') t' := by
  induction h generalizing s' with
  | @nil s => exact ⟨s', .nil, hs⟩
  | @cons s u t path paths before after renderings htree hbefore hrender _ ih =>
    obtain ⟨hhead, htail⟩ := List.forall_mem_cons.1 hread
    have hbefore' : readDocument s.tree path = .ok before := htree ▸ hbefore
    have hfile : renderFile p path s = .ok ⟨path, before, after⟩ u :=
      renderFile_eq_ok_iff.2 ⟨before, after, hbefore', hrender, rfl⟩
    simp only [allEvents, fileEvents, hbefore', hfile] at hsafe
    -- First this document, and then the rest of them in the sessions that it leaves.
    obtain ⟨u', hrender', hu⟩ := Processor.exists_render_again hrepeat hrender
      (fun code hsplices => hcode code (.here hbefore' hsplices))
      (fun e he => hsafe e (List.mem_append_left _ he)) hs
    obtain ⟨t', hrest, ht⟩ := ih htail (fun code hsplices => hcode code (.later hfile hsplices))
      (fun e he => hsafe e (List.mem_append_right _ he)) hu
    exact ⟨t', .cons hs.related.2 hhead hrender' hrest, ht⟩

/-! ## A second run -/

/-- A run puts `code` into one of the documents. -/
def Splices (p : Processor (World σ)) (directory : Path) (w : World σ) (code : String) : Prop :=
  ∃ paths, listing w.tree directory = .ok paths ∧ SplicesInto p code paths ⟨{}, w⟩

/-- The places of the files that sources are read from in the course of a run. -/
def placesRead (p : Processor (World σ)) (providers : List (Provider σ)) (directory : Path)
    (w : World σ) : List Place :=
  (events p directory w).filterMap (placeRead? providers w.tree)

/-- Where no source is read from a file that is written, all that is read stays as it is. -/
theorem undisturbed_of_replaces {directory : Path} {w : World σ} {written : List Rendering}
    (hreplaces : Replaces w.tree (written.map Rendering.output) tree')
    (hsources : ∀ r ∈ written, ∀ place ∈ placesRead p providers directory w,
      w.tree.resolve r.path ≠ .ok place) :
    ∀ e ∈ events p directory w, Undisturbed providers w.tree tree' e := by
  intro e he place hplace
  have hread : place ∈ placesRead p providers directory w := List.mem_filterMap.2 ⟨e, he, hplace⟩
  -- No piece is for a place that was read.
  refine hreplaces.file?_eq fun piece hpiece => ?_
  obtain ⟨r, hr, rfl⟩ := List.mem_map.1 hpiece
  rw [Rendering.fst_output]
  exact hsources r hr place hread

/-- A run that has been completed leaves nothing to do: a second run over the files that it leaves
    succeeds, finds no document to change and leaves the files as they are, whether it may write or
    not.  This holds as long as sources are files and what others give for a locator, no code in a
    document ends its block early, and no source is read from a file that is rewritten. -/
theorem run_again (hp : p.fetchers = providers.map Provider.fetcher)
    (hsteady : ∀ provider ∈ providers, provider.Steady) {directory : Path} {w w' : World σ}
    {changed : List Path} (h : run p directory {} w = .ok changed w')
    (hcode : ∀ code, Splices p directory w code → CodeBlock.Unfenced code)
    (hsources : ∀ path ∈ changed, ∀ place ∈ placesRead p providers directory w,
      w.tree.resolve path ≠ .ok place)
    {w₂ : World σ} (hw₂ : w₂.tree = w'.tree) (write : Bool) :
    ∃ w₃, run p directory { write := write } w₂ = .ok [] w₃ ∧ w₃.tree = w'.tree := by
  have hkeeps : ∀ f ∈ p.fetchers, f.KeepsTree := by
    rw [hp, List.forall_mem_map]
    exact fun provider _ => provider.keepsTree_fetcher
  obtain ⟨written, torn, hreplaces, hends⟩ := exists_ends hkeeps directory {} w
  rw [h] at hreplaces hends
  -- The first run has ended well, so every changed file has been written.
  obtain ⟨renderings, ⟨paths, s, hlisting, hrenders⟩, rfl, rfl, rfl⟩ := hends
  rw [List.append_nil] at hreplaces
  change Replaces w.tree ((renderings.filter Rendering.changed).map Rendering.output) w'.tree
    at hreplaces
  -- The second session is a twin of the first one from its beginning.
  have hrepeat := repeat_providers hreplaces.outline hsteady
  rw [← hp] at hrepeat
  -- What was changed is none of the sources.
  have hsafe := undisturbed_of_replaces hreplaces fun r hr =>
    hsources r.path (List.mem_map_of_mem hr)
  unfold events at hsafe
  rw [hlisting] at hsafe
  have hreadable : (⟨{}, w⟩ : Session (World σ)).Readable := rfl
  have htwins : (⟨{}, w⟩ : Session (World σ)).Twins (Between w.tree w'.tree) ⟨{}, w₂⟩ :=
    ⟨rfl, rfl, hw₂⟩
  obtain ⟨t, hagain, ht⟩ := exists_renders_again hrepeat hrenders
    (readDocument_of_replaces hreadable hrenders hreplaces)
    (fun code hsplices => hcode code ⟨paths, hlisting, hsplices⟩) hsafe htwins
  have htree : (⟨{}, w₂⟩ : Session (World σ)).tree = w'.tree := hw₂
  have hall := (renderAll_eq_ok_iff hkeeps htree).2 hagain
  -- Every file is rendered to what it already is, so none is changed.
  have hsettled : (renderings.map Rendering.settled).filter Rendering.changed = [] := by
    simp [Rendering.settled, Rendering.changed]
  refine ⟨t.world, ?_, ht.related.2⟩
  unfold run
  rw [hw₂, listing_congr hreplaces.outline, hlisting]
  dsimp only
  rw [hall]
  dsimp only
  rw [hsettled]
  cases write <;> rfl

/-! ## A run and another one -/

/-- Someone who has one source and knows of no other, and the files. -/
def sampleProviders : List (Provider Unit) :=
  [.other fun uri => Action.ofExcept <|
      if uri = "x" then .ok (Text.encode "y: 1\n") else .error (.about uri (.transport uri "gone")),
    .disk ⟨.none, []⟩]

/-- A processor for YAML that asks both. -/
def sampleAsking : Processor (World Unit) where
  extractors _ := some (Extractor.yaml Yaml.builtIn)
  fetchers := sampleProviders.map Provider.fetcher

/-- A directive for a file. -/
def firstLine : String := "<!-- pluck(\"yaml\", \"file\", \"n\", \"k.yaml\", 0, 0) -->"

/-- A directive for a source that is no file. -/
def secondLine : String := "<!-- pluck(\"yaml\", \"file\", \"n\", \"x\", 0, 0) -->"

/-- A document with an outdated block. -/
def secondDocument : String := secondLine ++ "\n```yaml\nold\n```\n"

/-- A source and two documents. -/
def sampleFiles : World Unit where
  tree :=
    { files :=
        [(["k.yaml"], Text.encode "k: v\n"), (["d", "a.md"], Text.encode firstLine),
          (["d", "b.md"], Text.encode secondDocument)] }
  outside := ()

/-- The two documents of the sample are listed. -/
private theorem listing_sampleFiles :
    listing sampleFiles.tree ⟨.none, ["d"]⟩ =
      .ok [⟨.none, ["d", "a.md"]⟩, ⟨.none, ["d", "b.md"]⟩] := by
  have hfiles : filesAt sampleFiles.tree ⟨.none, ["d"]⟩
    (sampleFiles.tree.found ⟨.none, ["d"]⟩ ["d"]) =
      .ok [⟨.none, ["d", "a.md"]⟩, ⟨.none, ["d", "b.md"]⟩] := rfl
  rw [listing_of_filesAt rfl (by decide) hfiles, Except.ok.injEq]
  cbv

/-- The run ends well, with the given paths. -/
def endsWith (paths : List Path) : EStateM.Result Failure (World Unit) (List Path) → Bool
  | .ok paths' _ => paths' == paths
  | .error _ _ => false

/-- It can be computed which paths a run ends with. -/
private theorem exists_of_endsWith {paths : List Path}
    {r : EStateM.Result Failure (World Unit) (List Path)} (h : endsWith paths r = true) :
    ∃ w, r = .ok paths w := by
  cases r with
  | ok paths' w => exact ⟨w, by rw [beq_iff_eq.1 h]⟩
  | error e w => cases h

/-- Both documents of the sample change. -/
theorem exists_run_sampleFiles :
    ∃ w, run sampleAsking ⟨.none, ["d"]⟩ {} sampleFiles =
      .ok [⟨.none, ["d", "a.md"]⟩, ⟨.none, ["d", "b.md"]⟩] w := by
  refine exists_of_endsWith ?_
  unfold run
  rw [listing_sampleFiles]
  decide +kernel

/-- The sample reads one source from the disk. -/
private theorem placesRead_sampleFiles :
    placesRead sampleAsking sampleProviders ⟨.none, ["d"]⟩ sampleFiles = [["k.yaml"]] := by
  unfold placesRead events
  rw [listing_sampleFiles]
  decide +kernel

/-- The session in which the first document has been rendered. -/
def sampleHalfway : Session (World Unit) :=
  ⟨{ entries := [("k.yaml", Text.encode "k: v\n"), ("k.yaml.file.n", Text.encode "k: v\n")] },
    sampleFiles⟩

/-- The session in which both documents have been rendered. -/
def sampleEnd : Session (World Unit) :=
  ⟨{ entries :=
      [("k.yaml", Text.encode "k: v\n"), ("k.yaml.file.n", Text.encode "k: v\n"),
        ("x", Text.encode "y: 1\n"), ("x.file.n", Text.encode "y: 1\n")] },
    sampleFiles⟩

open Transclude.Document

/-- The items of the first document. -/
private theorem itemized_first : Itemized (Text.lines firstLine) [.directive firstLine []] := by
  have hlines : Text.lines firstLine = firstLine :: ([] ++ []) := by decide
  rw [hlines]
  exact .directive (by decide) (.missing (by simp)) .nil

/-- What the first document is filled with. -/
private theorem fill_first :
    sampleAsking.fill [.directive firstLine []] ⟨{}, sampleFiles⟩ =
      .ok [.excerpt firstLine ⟨.yaml, .file, "n", "k.yaml", 0, 0⟩ "k: v\n"] sampleHalfway := by
  have hparse : Directive.parse firstLine = .ok ⟨.yaml, .file, "n", "k.yaml", 0, 0⟩ := rfl
  have hcode : sampleAsking.code ⟨.yaml, .file, "n", "k.yaml", 0, 0⟩ ⟨{}, sampleFiles⟩ =
    .ok "k: v\n" sampleHalfway := rfl
  exact Processor.fill_directive_eq_ok_iff.2 ⟨_, _, _, [], hparse, hcode, by decide, rfl, rfl⟩

/-- The items of the second document. -/
private theorem itemized_second :
    Itemized (Text.lines secondDocument) [.directive secondLine ["```yaml", "old", "```"]] := by
  have hlines : Text.lines secondDocument = secondLine :: (["```yaml", "old", "```"] ++ []) := by
    decide
  rw [hlines]
  exact .directive (by decide) (oldBlock_iff.2 (by decide)) .nil

/-- What the second document is filled with. -/
private theorem fill_second :
    sampleAsking.fill [.directive secondLine ["```yaml", "old", "```"]] sampleHalfway =
      .ok [.excerpt secondLine ⟨.yaml, .file, "n", "x", 0, 0⟩ "y: 1\n"] sampleEnd := by
  have hparse : Directive.parse secondLine = .ok ⟨.yaml, .file, "n", "x", 0, 0⟩ := rfl
  have hcode : sampleAsking.code ⟨.yaml, .file, "n", "x", 0, 0⟩ sampleHalfway =
    .ok "y: 1\n" sampleEnd := rfl
  exact Processor.fill_directive_eq_ok_iff.2 ⟨_, _, _, [], hparse, hcode, by decide, rfl, rfl⟩

/-- No code of the sample has a fence. -/
private theorem unfenced_sampleFiles {code : String}
    (h : Splices sampleAsking ⟨.none, ["d"]⟩ sampleFiles code) : CodeBlock.Unfenced code := by
  obtain ⟨paths, hpaths, hinto⟩ := h
  rw [listing_sampleFiles] at hpaths
  cases hpaths
  have hreadFirst : readDocument sampleFiles.tree ⟨.none, ["d", "a.md"]⟩ = .ok firstLine := rfl
  have hreadSecond : readDocument sampleFiles.tree ⟨.none, ["d", "b.md"]⟩ =
    .ok secondDocument := rfl
  cases hinto with
  | here hread hcode =>
    obtain rfl := Except.ok.inj (hreadFirst.symm.trans hread)
    obtain rfl : code = "k: v\n" := by
      simpa [Piece.code?] using Processor.mem_of_splices itemized_first fill_first hcode
    decide
  | later hfile hrest =>
    obtain ⟨before, after, hread, hrender, -⟩ := renderFile_eq_ok_iff.1 hfile
    obtain rfl := Except.ok.inj (hreadFirst.symm.trans hread)
    obtain ⟨items, pieces, hitems, hfill, -⟩ :=
      (Processor.render_eq_ok_iff (by decide)).1 hrender
    rw [hitems.unique itemized_first, fill_first] at hfill
    cases hfill
    cases hrest with
    | here hread hcode =>
      obtain rfl := Except.ok.inj (hreadSecond.symm.trans hread)
      obtain rfl : code = "y: 1\n" := by
        simpa [Piece.code?] using Processor.mem_of_splices itemized_second fill_second hcode
      decide
    | later _ hrest => cases hrest

/-- A second run of the sample changes nothing. -/
theorem run_again_sampleFiles :
    sampleAsking.fetchers = sampleProviders.map Provider.fetcher ∧
      (∀ provider ∈ sampleProviders, provider.Steady) ∧
      ∃ changed w', run sampleAsking ⟨.none, ["d"]⟩ {} sampleFiles = .ok changed w' ∧
        changed.length = 2 ∧
        (∀ code, Splices sampleAsking ⟨.none, ["d"]⟩ sampleFiles code → CodeBlock.Unfenced code) ∧
        (∀ path ∈ changed,
          ∀ place ∈ placesRead sampleAsking sampleProviders ⟨.none, ["d"]⟩ sampleFiles,
          sampleFiles.tree.resolve path ≠ .ok place) ∧
        ∃ w₃, run sampleAsking ⟨.none, ["d"]⟩ { write := false } w' = .ok [] w₃ ∧
          w₃.tree = w'.tree := by
  have hsteady : ∀ provider ∈ sampleProviders, provider.Steady := by
    intro provider hprovider
    rcases List.mem_cons.1 hprovider with rfl | hprovider
    -- One provider always answers in the same way, and the other one is the disk.
    · exact fun _ _ _ => rfl
    · rw [List.mem_singleton.1 hprovider]
      trivial
  obtain ⟨w', hrun⟩ := exists_run_sampleFiles
  have hcode := @unfenced_sampleFiles
  have hsources : ∀ path ∈ [(⟨.none, ["d", "a.md"]⟩ : Path), ⟨.none, ["d", "b.md"]⟩],
      ∀ place ∈ placesRead sampleAsking sampleProviders ⟨.none, ["d"]⟩ sampleFiles,
      sampleFiles.tree.resolve path ≠ .ok place := by
    rw [placesRead_sampleFiles]
    decide
  exact ⟨rfl, hsteady, _, w', hrun, rfl, fun _ => hcode, hsources,
    run_again rfl hsteady hrun (fun _ => hcode) hsources rfl false⟩

end Run

end Transclude
