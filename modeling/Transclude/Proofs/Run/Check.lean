import Transclude.Proofs.Run.Again

/-!
# A run that only looks

A run that may not write finds out what a run that may would do (`run_reports`).  Both list the
same documents and render them in sessions that stay twins (`alike_renderAll`), so they fail with
the same error or give the same list, if every document can be written that is to be.

The list has a document exactly if its bytes change (`read_ne_iff_changed`): what is read is decoded
and what is written is encoded, and neither loses anything.
-/

namespace Transclude

open Transclude.Action (Alike)

variable {σ : Type}

/-- What a fetcher gives depends on the locator and the files, and it leaves the files alone. -/
structure Fetcher.OfTree (fetcher : Fetcher (World σ)) : Prop where
  keepsTree : fetcher.KeepsTree
  outcome_eq : ∀ uri w w', w'.tree = w.tree →
    Action.outcome (fetcher uri w') = Action.outcome (fetcher uri w)

/-- Providers are asked by such fetchers. -/
theorem Provider.ofTree_fetcher {provider : Provider σ} (h : provider.Steady) :
    provider.fetcher.OfTree := by
  refine ⟨provider.keepsTree_fetcher, fun uri w w' htree => ?_⟩
  cases provider with
  | disk base => simp only [Provider.fetcher, World.diskFetcher, Action.outcome_ofExcept, htree]
  | other fetcher =>
    simp only [Provider.fetcher, World.beyond, Action.outcome_within]
    exact h uri w'.outside w.outside

/-! ## Documents side by side -/

namespace Processor

variable {p : Processor σ} {R : σ → σ → Prop} {s s' : Session σ}
  (h : Resolver.Repeat p.fetchers R fun _ => True)
include h

/-- A directive is rendered alike over trees that are read alike. -/
private theorem alike_splice (line : String) (rest : List String) (hs : s.Twins R s') :
    Alike (Session.Twins R) (p.splice line rest s) (p.splice line rest s') := by
  unfold splice
  cases Directive.parse line with
  | error e => exact .error hs
  -- The code is made from the same sources, and the rest does not look at the session.
  | ok d =>
    have hcode := alike_code (d := d) h (fun _ _ => trivial) hs
    exact Alike.withContext _ (hcode.bind fun _ ht => (Alike.ofExcept _ ht).bind fun _ hu =>
      (Alike.ofExcept _ hu).bind fun _ hv => .ok hv)

/-- Lines are rendered alike over trees that are read alike. -/
private theorem alike_renderLines (number passing : Nat) (lines : List String) (hs : s.Twins R s') :
    Alike (Session.Twins R) (p.renderLines number passing lines s)
      (p.renderLines number passing lines s') := by
  induction lines generalizing number passing s s' with
  | nil => exact .ok hs
  | cons line rest ih =>
    unfold renderLines
    -- A line of an old block is passed over, a directive is filled, any other line is kept.
    split
    · exact ih _ _ hs
    · split
      · exact ((alike_splice h line rest hs).withContext _).bind fun _ ht =>
          (ih _ _ ht).bind fun _ hu => .ok hu
      · exact (ih _ _ hs).bind fun _ ht => .ok ht

/-- A document is rendered to the same in both sessions, or fails in the same way. -/
theorem alike_render (document : String) (hs : s.Twins R s') :
    Alike (Session.Twins R) (p.render document s) (p.render document s') := by
  unfold render
  split
  · exact .ok hs
  · exact alike_renderLines h _ _ _ hs

end Processor

namespace Run

variable {p : Processor (World σ)} {tree tree' : FileTree} {s s' : Session (World σ)}

/-- In worlds with the same files such fetchers do the same. -/
theorem repeat_ofTree (hp : ∀ f ∈ p.fetchers, f.OfTree) (tree : FileTree) :
    Resolver.Repeat p.fetchers (Between tree tree) fun _ => True := by
  rintro store i uri fetcher w w' hfetcher ⟨htree, htree'⟩ -
  have h := hp fetcher (List.mem_of_getElem? hfetcher)
  refine .of_outcome_eq (h.outcome_eq uri w' w (htree.trans htree'.symm)) ?_
  exact ⟨(h.keepsTree uri w).trans htree, (h.keepsTree uri w').trans htree'⟩

variable (hp : ∀ f ∈ p.fetchers, f.OfTree)
include hp

/-- A document is rendered alike over the tree and between its writings. -/
private theorem alike_renderFile (path : Path) (hs : s.Twins (Between tree tree) s') :
    Alike (Session.Twins (Between tree tree)) (renderFile p path s) (renderFile p path s') := by
  have hrepeat := repeat_ofTree hp tree
  have hread : readDocument s'.world.tree path = readDocument s.world.tree path := by
    rw [hs.related.1, hs.related.2]
  refine Alike.withContext _ ?_
  -- Both read the same document.
  show Alike _ ((Action.ofExcept (readDocument s.world.tree path) >>= fun before => do
      let after ← p.render before
      return (⟨path, before, after⟩ : Rendering)) s)
    ((Action.ofExcept (readDocument s'.world.tree path) >>= fun before => do
      let after ← p.render before
      return (⟨path, before, after⟩ : Rendering)) s')
  rw [hread]
  exact (Alike.ofExcept _ hs).bind fun _ ht =>
    (Processor.alike_render hrepeat _ ht).bind fun _ hu => .ok hu

/-- The documents at some paths are rendered to the same, or the same one fails in the same way. -/
theorem alike_renderAll (paths : List Path) (hs : s.Twins (Between tree tree) s') :
    Alike (Session.Twins (Between tree tree)) (renderAll p paths s) (renderAll p paths s') := by
  induction paths generalizing s s' with
  | nil => exact .ok hs
  | cons path rest ih =>
    exact (alike_renderFile hp path hs).bind fun _ ht => (ih ht).bind fun _ hu => .ok hu

omit hp

/-! ## Bytes -/

/-- A document says what its data decodes to. -/
private theorem readDocument_eq_ok_iff_read {path : Path} {text : String} :
    readDocument tree path = .ok text ↔ tree.read path = .ok (Text.encode text) := by
  unfold readDocument
  cases tree.read path with
  | error obstacle => simp
  | ok data =>
    constructor
    · intro h
      dsimp only at h
      cases hdecode : Text.decode data with
      | error fault => rw [hdecode] at h; cases h
      | ok text' =>
        rw [hdecode] at h
        cases h
        rw [Text.eq_encode_of_decode hdecode]
    · intro h
      cases h
      simp only [Text.decode_encode]

/-- The bytes of a document change exactly if its text does. -/
theorem read_ne_iff_changed {paths : List Path} {renderings : List Rendering}
    {t : Session (World σ)} (hs : s.Readable) (h : Renders p tree s paths renderings t)
    (hreplaces : Replaces tree
      ((renderings.filter Rendering.changed).map Rendering.output) tree') {r : Rendering}
    (hr : r ∈ renderings) : tree'.read r.path ≠ tree.read r.path ↔ r.changed = true := by
  have hbefore := readDocument_eq_ok_iff_read.1 (h.readDocument r hr)
  have hafter := readDocument_eq_ok_iff_read.1 (readDocument_of_replaces hs h hreplaces r hr)
  -- Before the run the file holds the one text, after it the other.
  rw [hbefore, hafter, ne_eq, Except.ok.injEq, Rendering.changed, decide_eq_true_eq, ne_eq,
    not_iff_not]
  exact ⟨fun he => (Text.encode_inj.1 he).symm, fun he => Text.encode_inj.2 he.symm⟩

/-- The paths of the documents that change are those under which other bytes are read. -/
theorem map_path_filter_changed {paths : List Path} {renderings : List Rendering}
    {t : Session (World σ)} (hs : s.Readable) (h : Renders p tree s paths renderings t)
    (hreplaces : Replaces tree ((renderings.filter Rendering.changed).map Rendering.output) tree') :
    (renderings.filter Rendering.changed).map Rendering.path =
      paths.filter fun path => tree'.read path ≠ tree.read path := by
  -- Both lists are in the order of the files.
  rw [← h.map_path, List.filter_map]
  congr 1
  apply List.filter_congr
  intro r hr
  rw [Bool.eq_iff_iff, Function.comp_apply, decide_eq_true_eq]
  exact (read_ne_iff_changed hs h hreplaces hr).symm

/-- The files that change are those of the documents that do. -/
theorem file?_ne_iff {paths : List Path} {renderings : List Rendering} {t : Session (World σ)}
    (hs : s.Readable) (h : Renders p tree s paths renderings t)
    (hreplaces : Replaces tree
      ((renderings.filter Rendering.changed).map Rendering.output) tree') (place : Place) :
    tree'.file? place ≠ tree.file? place ↔
      ∃ r ∈ renderings.filter Rendering.changed, tree.resolve r.path = .ok place := by
  constructor
  · intro hplace
    exact Classical.byContradiction fun hnone =>
      hplace (hreplaces.file?_eq fun piece hpiece he => by
        obtain ⟨r, hr, rfl⟩ := List.mem_map.1 hpiece
        exact hnone ⟨r, hr, by simpa using he⟩)
  · rintro ⟨r, hr, hresolve⟩ hsame
    obtain ⟨hmem, hchanged⟩ := List.mem_filter.1 hr
    -- The same bytes would be read under the path.
    apply (read_ne_iff_changed hs h hreplaces hmem).2 hchanged
    obtain ⟨place', data, hplace, -, hfile, -⟩ := readDocument_eq_ok_iff.1 (h.readDocument r hmem)
    rw [hresolve, Except.ok.injEq] at hplace
    subst hplace
    rw [FileTree.read_congr hreplaces.outline fun _ hplace => ?_]
    rw [hresolve, Except.ok.injEq] at hplace
    rw [← hplace, hsame]

/-! ## Runs -/

/-- Every document that a run changes can be written. -/
def Writable (p : Processor (World σ)) (directory : Path) (w : World σ) : Prop :=
  ∀ renderings, AllRendered p directory w renderings →
    ∃ tree, writeAll (renderings.filter Rendering.changed) w.tree = .ok () tree

/-- A run that ends well has written all that it had to. -/
theorem writable_of_run_eq_ok (hp : ∀ f ∈ p.fetchers, f.KeepsTree) {directory : Path}
    {w w' : World σ} {changed : List Path} (h : run p directory {} w = .ok changed w') :
    Writable p directory w := by
  rintro renderings ⟨paths, s, hlisting, hrenders⟩
  have htree : (⟨{}, w⟩ : Session (World σ)).tree = w.tree := rfl
  have hrender := (renderAll_eq_ok_iff hp htree).2 hrenders
  have hleft : s.world.tree = w.tree := (keeps_renderAll hp paths).of_ok hrender
  -- The run has come to the writes, and they have gone well.
  simp only [run, hlisting, hrender, if_true, hleft] at h
  cases hresult : writeAll (renderings.filter Rendering.changed) w.tree with
  | error e tree => rw [hresult] at h; cases h
  | ok _ tree => exact ⟨tree, rfl⟩

include hp in
/-- A run that may not write ends as one that may, which can write all that it has to. -/
theorem outcome_run_eq {directory : Path} {w w' : World σ} (htree : w'.tree = w.tree)
    (hwrite : Writable p directory w') :
    Action.outcome (run p directory { write := false } w) =
      Action.outcome (run p directory {} w') := by
  have hkeeps : ∀ f ∈ p.fetchers, f.KeepsTree := fun f hf => (hp f hf).keepsTree
  unfold run
  rw [htree]
  cases hlisting : listing w.tree directory with
  | error e => rfl
  | ok paths =>
    have htwins : (⟨{}, w⟩ : Session (World σ)).Twins (Between w.tree w.tree) ⟨{}, w'⟩ :=
      ⟨rfl, rfl, htree⟩
    -- Up to the writes the two runs do the same.
    have halike := alike_renderAll hp paths htwins
    dsimp only
    cases hrender : renderAll p paths ⟨{}, w'⟩ with
    | error e s' =>
      rw [hrender] at halike
      generalize renderAll p paths ⟨{}, w⟩ = r at halike
      cases halike
      rfl
    | ok renderings s' =>
      -- The files have been rendered, so the hypothesis says that they can be written.
      have hrenders := (renderAll_eq_ok_iff hkeeps rfl).1 hrender
      obtain ⟨tree, htree'⟩ := hwrite renderings ⟨paths, s', by rw [htree, hlisting], hrenders⟩
      have hleft : s'.world.tree = w'.tree := (keeps_renderAll hkeeps paths).of_ok hrender
      rw [hrender] at halike
      generalize renderAll p paths ⟨{}, w⟩ = r at halike
      cases halike
      simp only [Bool.false_eq_true, if_false, if_true, hleft, htree']
      rfl

/-- A run that may not write leaves all files as they are. -/
theorem keeps_run_check (hp : ∀ f ∈ p.fetchers, f.KeepsTree) (directory : Path) :
    Action.Keeps World.tree (run p directory { write := false }) := by
  intro w
  unfold run
  cases listing w.tree directory with
  | error e => rfl
  | ok paths =>
    have hleft := keeps_renderAll hp paths ⟨{}, w⟩
    dsimp only
    cases hrender : renderAll p paths ⟨{}, w⟩ with
    | error e s =>
      rw [hrender] at hleft
      exact hleft
    | ok renderings s =>
      rw [hrender] at hleft
      exact hleft

/-- Where all that is to be written can be, a run that may not write ends as one that may: with the
    same error, or with the same list.  It leaves all files as they are.  The list has the
    Markdown files, in order, under which other bytes are read after the run that may write, and
    these are the files that change. -/
theorem run_reports (hp : ∀ f ∈ p.fetchers, f.OfTree) {directory : Path} {w w' : World σ}
    (htree : w'.tree = w.tree) (hwrite : Writable p directory w') :
    Action.outcome (run p directory { write := false } w) =
        Action.outcome (run p directory {} w') ∧
      (Action.left (run p directory { write := false } w)).tree = w.tree ∧
      ∀ changed w'', run p directory {} w' = .ok changed w'' →
        ∃ paths, listing w.tree directory = .ok paths ∧ InOrder paths ∧
          (∀ path ∈ paths, path.isMarkdown = true) ∧
          changed = paths.filter (fun path => w''.tree.read path ≠ w.tree.read path) ∧
          ∀ place, w''.tree.file? place ≠ w.tree.file? place ↔
            ∃ path ∈ changed, w.tree.resolve path = .ok place := by
  have hkeeps : ∀ f ∈ p.fetchers, f.KeepsTree := fun f hf => (hp f hf).keepsTree
  refine ⟨outcome_run_eq hp htree hwrite, keeps_run_check hkeeps directory w, ?_⟩
  intro changed w'' hrun
  obtain ⟨written, torn, hreplaces, hends⟩ := exists_ends hkeeps directory {} w'
  rw [hrun] at hreplaces hends
  obtain ⟨renderings, ⟨paths, s, hlisting, hrenders⟩, rfl, rfl, rfl⟩ := hends
  -- A list of changed files means that every one of them has been written.
  rw [if_pos rfl, List.append_nil] at hreplaces
  rw [htree] at hlisting hrenders
  rw [htree, Action.left] at hreplaces
  have hreadable : (⟨{}, w'⟩ : Session (World σ)).Readable := rfl
  obtain ⟨horder, hmarkdown⟩ := inOrder_of_listing hlisting
  refine ⟨paths, hlisting, horder, hmarkdown,
    map_path_filter_changed hreadable hrenders hreplaces, fun place => ?_⟩
  -- The files that differ are those of the list, place by place.
  rw [file?_ne_iff hreadable hrenders hreplaces]
  simp only [List.mem_map, exists_exists_and_eq_and]

/-- Writing or not, the sample reports both documents. -/
theorem run_reports_sample :
    (∀ f ∈ sampleAsking.fetchers, f.OfTree) ∧ Writable sampleAsking ⟨.none, ["d"]⟩ sampleFiles ∧
      ∃ w, run sampleAsking ⟨.none, ["d"]⟩ {} sampleFiles =
          .ok [⟨.none, ["d", "a.md"]⟩, ⟨.none, ["d", "b.md"]⟩] w ∧
        Action.outcome (run sampleAsking ⟨.none, ["d"]⟩ { write := false } sampleFiles) =
          .ok [⟨.none, ["d", "a.md"]⟩, ⟨.none, ["d", "b.md"]⟩] ∧
        (Action.left (run sampleAsking ⟨.none, ["d"]⟩ { write := false } sampleFiles)).tree =
          sampleFiles.tree ∧
        w.tree.file? ["d", "b.md"] ≠ sampleFiles.tree.file? ["d", "b.md"] ∧
        w.tree.file? ["k.yaml"] = sampleFiles.tree.file? ["k.yaml"] := by
  have hp : ∀ f ∈ sampleAsking.fetchers, f.OfTree := by
    refine List.forall_mem_map.2 (List.forall_mem_cons.2 ⟨?_, List.forall_mem_singleton.2 ?_⟩)
    · exact Provider.ofTree_fetcher fun _ _ _ => rfl
    · exact Provider.ofTree_fetcher trivial
  obtain ⟨w, hrun⟩ := exists_run_sampleFiles
  have hwrite := writable_of_run_eq_ok (fun f hf => (hp f hf).keepsTree) hrun
  obtain ⟨houtcome, hleft, hlist⟩ := run_reports hp rfl hwrite
  obtain ⟨-, -, -, -, -, hplaces⟩ := hlist _ _ hrun
  -- The document is rewritten, its source is not.
  refine ⟨hp, hwrite, w, hrun, by rw [houtcome, hrun]; rfl, hleft, (hplaces _).2 ?_, ?_⟩
  · exact ⟨⟨.none, ["d", "b.md"]⟩, by simp, by decide⟩
  · refine Classical.byContradiction fun hne => ?_
    obtain ⟨path, hpath, hresolve⟩ := (hplaces _).1 hne
    revert path
    decide

end Run

end Transclude
