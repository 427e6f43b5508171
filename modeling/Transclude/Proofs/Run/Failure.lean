import Transclude.Proofs.Document.Failure
import Transclude.Proofs.Run.Blame

/-!
# Where a run fails

Documents are rendered in turn, so a run fails at the first that cannot be read or rendered when
all before it have been (`renderAll_eq_error_iff`), and gives the error of that document the path
of its file.  `Fails` lists all the ways in which a run fails (`run_eq_error_iff`).
-/

namespace Transclude.Run

variable {σ : Type} {p : Processor (World σ)} {s s' : Session (World σ)}

/-! ## Documents of a run that fail -/

/-- A document fails to be read or to be rendered, and the failure says which document it is. -/
theorem renderFile_eq_error_iff {path : Path} {e : Failure} :
    renderFile p path s = .error e s' ↔
      ∃ inner, e = inner.withContext { path := some path } ∧
        ((readDocument s.tree path = .error inner ∧ s' = s) ∨
          ∃ document, readDocument s.tree path = .ok document ∧
            p.render document s = .error inner s') := by
  have happly : readAndRender p path s = (do
      let before ← Action.ofExcept (readDocument s.tree path)
      let after ← p.render before
      return ({ path, before, after } : Rendering)) s := rfl
  rw [renderFile, Action.withContext_eq_error_iff]
  -- The action is the reading followed by the rendering, and each may fail.
  constructor
  · rintro ⟨inner, h, rfl⟩
    rw [happly, Action.bind_eq_error_iff] at h
    rcases h with h | ⟨document, t, hread, h⟩
    · exact ⟨inner, rfl, .inl (Action.ofExcept_eq_error_iff.1 h)⟩
    · obtain ⟨hread, rfl⟩ := Action.ofExcept_eq_ok_iff.1 hread
      rcases Action.bind_eq_error_iff.1 h with h | ⟨_, _, -, h⟩
      · exact ⟨inner, rfl, .inr ⟨document, hread, h⟩⟩
      · cases h
  · rintro ⟨inner, rfl, h⟩
    refine ⟨inner, ?_, rfl⟩
    rw [happly, Action.bind_eq_error_iff]
    rcases h with h | ⟨document, hread, h⟩
    · exact .inl (Action.ofExcept_eq_error_iff.2 h)
    · exact .inr ⟨document, s, Action.ofExcept_eq_ok_iff.2 ⟨hread, rfl⟩,
        Action.bind_eq_error_iff.2 (.inl h)⟩

/-- Documents fail at the first one that does. -/
theorem renderAll_eq_error_iff {paths : List Path} {e : Failure} :
    renderAll p paths s = .error e s' ↔
      ∃ before path after renderings t, paths = before ++ path :: after ∧
        renderAll p before s = .ok renderings t ∧ renderFile p path t = .error e s' := by
  induction paths generalizing s with
  | nil =>
    constructor
    · intro h; cases h
    · rintro ⟨before, path, after, _, _, h, -⟩
      cases before <;> cases h
  | cons first paths ih =>
    rw [renderAll, Action.bind_eq_error_iff]
    -- The first file fails, or the failure comes with the files behind it.
    constructor
    · rintro (h | ⟨rendering, t, hfirst, h⟩)
      · exact ⟨[], first, paths, [], s, rfl, rfl, h⟩
      · rcases Action.bind_eq_error_iff.1 h with h | ⟨_, _, -, h⟩
        · obtain ⟨before, path, after, renderings, u, rfl, hbefore, hpath⟩ := ih.1 h
          refine ⟨first :: before, path, after, rendering :: renderings, u, rfl, ?_, hpath⟩
          rw [renderAll, Action.bind_eq_ok_iff]
          exact ⟨rendering, t, hfirst, Action.bind_eq_ok_iff.2 ⟨renderings, u, hbefore, rfl⟩⟩
        · cases h
    · rintro ⟨before, path, after, renderings, t, hpaths, hbefore, hpath⟩
      -- The files before the failing one tell how far the recursion has come.
      cases before with
      | nil =>
        cases hpaths
        cases hbefore
        exact .inl hpath
      | cons _ before =>
        cases hpaths
        rw [renderAll, Action.bind_eq_ok_iff] at hbefore
        obtain ⟨rendering, u, hfirst, hmore⟩ := hbefore
        obtain ⟨renderings, v, hmore, hv⟩ := Action.bind_eq_ok_iff.1 hmore
        cases hv
        refine .inr ⟨rendering, u, hfirst, Action.bind_eq_error_iff.2 (.inl ?_)⟩
        exact ih.2 ⟨before, path, after, renderings, t, rfl, hmore, hpath⟩

/-! ## Runs that fail -/

/-- How a run fails, and what it leaves: it cannot list the documents, it cannot read the one at
    `path` or render it when those before are rendered, or it cannot write when all are. -/
inductive Fails (p : Processor (World σ)) (directory : Path) (options : Options) (w : World σ) :
    Failure → World σ → Prop where
  | listing {e : Failure} (h : Run.listing w.tree directory = .error e) :
    Fails p directory options w e w
  | reading {before after : List Path} {path : Path} {renderings : List Rendering}
    {t : Session (World σ)} {problem : Problem Failure} {inner : Context}
    (hpaths : Run.listing w.tree directory = .ok (before ++ path :: after))
    (hbefore : renderAll p before ⟨{}, w⟩ = .ok renderings t)
    (h : readDocument t.tree path = .error (.error problem inner)) :
    Fails p directory options w
      (.error problem { inner with path := inner.path.or (some path) }) t.world
  | rendering {before after : List Path} {path : Path} {renderings : List Rendering}
    {t s' : Session (World σ)} {document : String} {problem : Problem Failure} {inner : Context}
    (hpaths : Run.listing w.tree directory = .ok (before ++ path :: after))
    (hbefore : renderAll p before ⟨{}, w⟩ = .ok renderings t)
    (hread : readDocument t.tree path = .ok document)
    (h : p.render document t = .error (.error problem inner) s') :
    Fails p directory options w
      (.error problem { inner with path := inner.path.or (some path) }) s'.world
  | ending {before after : List Path} {path : Path} {renderings : List Rendering}
    {t s' : Session (World σ)} {document : String} {e : Failure}
    (hpaths : Run.listing w.tree directory = .ok (before ++ path :: after))
    (hbefore : renderAll p before ⟨{}, w⟩ = .ok renderings t)
    (hread : readDocument t.tree path = .ok document)
    (h : p.render document t = .error e s') (he : ¬e.IsError) :
    Fails p directory options w (atDeadline options.timeout e) s'.world
  | writing {paths : List Path} {renderings : List Rendering} {t : Session (World σ)} {e : Failure}
    {tree : FileTree} (hpaths : Run.listing w.tree directory = .ok paths)
    (hall : renderAll p paths ⟨{}, w⟩ = .ok renderings t) (hoption : options.write = true)
    (h : writeAll (renderings.filter Rendering.changed) t.world.tree = .error e tree) :
    Fails p directory options w e { t.world with tree }

/-- A failure of a document, with its file, as the run sees it. -/
theorem atDeadline_withContext {timeout : Option Seconds} {problem : Problem Failure}
    {inner : Context} {path : Path} :
    atDeadline timeout ((Failure.error problem inner).withContext { path := some path }) =
      .error problem { inner with path := inner.path.or (some path) } := by
  simp [atDeadline, Failure.withContext, Context.or]

/-- A run fails as the first of its documents that does. -/
theorem run_of_renderFile {directory : Path} {options : Options} {w : World σ}
    {before after : List Path} {path : Path} {renderings : List Rendering}
    {t : Session (World σ)} {e : Failure}
    (hpaths : listing w.tree directory = .ok (before ++ path :: after))
    (hbefore : renderAll p before ⟨{}, w⟩ = .ok renderings t)
    (h : renderFile p path t = .error e s') :
    run p directory options w = .error (atDeadline options.timeout e) s'.world := by
  have hall := renderAll_eq_error_iff.2 ⟨before, path, after, renderings, t, rfl, hbefore, h⟩
  unfold run
  rw [hpaths]
  dsimp only
  rw [hall]

/-- A run fails as the first of its documents does that cannot be read or rendered. -/
private theorem fails_of_renderAll {directory : Path} {options : Options} {w : World σ}
    {paths : List Path} {e : Failure} (hpaths : listing w.tree directory = .ok paths)
    (h : renderAll p paths ⟨{}, w⟩ = .error e s') :
    Fails p directory options w (atDeadline options.timeout e) s'.world := by
  obtain ⟨before, path, after, renderings, t, rfl, hbefore, hpath⟩ := renderAll_eq_error_iff.1 h
  obtain ⟨inner, rfl, ⟨hread, rfl⟩ | ⟨document, hread, hrender⟩⟩ := renderFile_eq_error_iff.1 hpath
  · -- Reading a file fails with an error only.
    have herror := errorsOnly_readDocument _ _ _ hread
    cases inner with
    | error problem inner =>
      rw [atDeadline_withContext]
      exact .reading hpaths hbefore hread
    | fault | stalled => cases herror
  · -- A rendering may also end in a fault or stall, and then nothing is added.
    cases inner with
    | error problem inner =>
      rw [atDeadline_withContext]
      exact .rendering hpaths hbefore hread hrender
    | fault | stalled => exact .ending hpaths hbefore hread hrender id

/-- A run that fails does so in one of these ways. -/
private theorem fails_of_run {directory : Path} {options : Options} {w w' : World σ} {e : Failure}
    (h : run p directory options w = .error e w') : Fails p directory options w e w' := by
  unfold run at h
  -- The listing, the renderings and the writes can fail, in that order.
  cases hpaths : listing w.tree directory with
  | error e' =>
    rw [hpaths] at h
    cases h
    exact .listing hpaths
  | ok paths =>
    rw [hpaths] at h
    dsimp only at h
    cases hall : renderAll p paths ⟨{}, w⟩ with
    | error e' s' =>
      rw [hall] at h
      cases h
      exact fails_of_renderAll hpaths hall
    | ok renderings t =>
      rw [hall] at h
      dsimp only at h
      split at h
      · rename_i hoption
        cases hwrite : writeAll (renderings.filter Rendering.changed) t.world.tree with
        | error e' tree =>
          rw [hwrite] at h
          cases h
          exact .writing hpaths hall hoption hwrite
        | ok u tree => rw [hwrite] at h; cases h
      · cases h

/-- Each of these ways is a failure of the run. -/
private theorem Fails.run_eq {directory : Path} {options : Options} {w w' : World σ} {e : Failure}
    (h : Fails p directory options w e w') : run p directory options w = .error e w' := by
  cases h with
  | listing h =>
    unfold run
    rw [h]
  | reading hpaths hbefore h =>
    rw [run_of_renderFile hpaths hbefore
      (renderFile_eq_error_iff.2 ⟨_, rfl, .inl ⟨h, rfl⟩⟩), atDeadline_withContext]
  | rendering hpaths hbefore hread h =>
    rw [run_of_renderFile hpaths hbefore
      (renderFile_eq_error_iff.2 ⟨_, rfl, .inr ⟨_, hread, h⟩⟩), atDeadline_withContext]
  | @ending _ _ _ _ _ _ _ e hpaths hbefore hread h he =>
    rw [run_of_renderFile hpaths hbefore
      (renderFile_eq_error_iff.2 ⟨_, rfl, .inr ⟨_, hread, h⟩⟩)]
    cases e with
    | error => exact absurd trivial he
    | fault | stalled => rfl
  | writing hpaths hall hoption h =>
    unfold run
    rw [hpaths]
    dsimp only
    rw [hall]
    dsimp only
    rw [if_pos hoption, h]

/-- A run fails in these ways and in no other. -/
theorem run_eq_error_iff {directory : Path} {options : Options} {w w' : World σ} {e : Failure} :
    run p directory options w = .error e w' ↔ Fails p directory options w e w' :=
  ⟨fails_of_run, Fails.run_eq⟩

/-! ## What an error points at -/

/-- An error of a document points at the first of its directive lines that fails: the scan reaches
    this line, all directives before it have been rendered, nothing has been called for the lines
    behind it, and the problem is that of the line, with its number and the locator of its excerpt.
    A run that fails at a document has rendered all before it, and adds nothing but its path. -/
theorem failure_located :
    (∀ {σ : Type} (p : Processor σ) (document : String) (s s' : Session σ)
        (problem : Problem Failure) (context : Context),
      p.render document s = .error (.error problem context) s' →
        ∃ items line rest t uri inner,
          p.FailsAt (Text.lines document) s items line rest t uri (.error problem inner) s' ∧
            p.Locates document s items line t uri inner context) ∧
      ∀ {σ : Type} (p : Processor (World σ)) (directory : Path) (options : Options)
        (w w' : World σ) (e : Failure),
        run p directory options w = .error e w' ↔ Fails p directory options w e w' :=
  ⟨fun _ _ _ _ _ _ h => Processor.exists_locates h, fun _ _ _ _ _ _ => run_eq_error_iff⟩

/-- A directive with a source that cannot be found. -/
def missingLine : String := "<!-- pluck(\"yaml\", \"file\", \"n\", \"b\", 0, 0) -->"

/-- A directive that fails stands between two others; the old block of the first one holds a line
    that would fail too. -/
def failingDocument : String :=
  Processor.sampleLine ++ "\n```yaml\n<!-- pluck() -->\n```\n" ++ missingLine ++
    "\n<!-- pluck() -->\n"

/-- Two documents, of which the second one fails. -/
def failingWorld : World Unit where
  tree :=
    { files := [(["d", "b.md"], Text.encode "<!-- pluck() -->"), (["d", "a.md"], Text.encode "t")] }
  outside := ()

section

open Transclude.Document

set_option maxRecDepth 4000 in

/-- The sample document fails at its fifth line. -/
private theorem render_failingDocument :
    Processor.sample.render failingDocument ⟨{}, ()⟩ =
      .error (.error (.allFetchersFailed [.about "b" (.transport "b" "gone")])
        ⟨some "b", none, some 5⟩) Processor.sampleSession := by
  -- The one directive is filled, the other one fails.
  have hlines : Text.lines failingDocument = Processor.sampleLine ::
      (["```yaml", "<!-- pluck() -->", "```"] ++ [missingLine, "<!-- pluck() -->"]) := by decide
  -- The block that stands behind the first directive goes with it.
  have hold : OldBlock ["```yaml", "<!-- pluck() -->", "```"] [missingLine, "<!-- pluck() -->"] :=
    oldBlock_iff.2 (by decide)
  have hscanned : Scanned (Text.lines failingDocument)
      [.directive Processor.sampleLine ["```yaml", "<!-- pluck() -->", "```"]]
      [missingLine, "<!-- pluck() -->"] := by
    rw [hlines]
    exact .directive (by decide) hold .here
  have hparse : Directive.parse Processor.sampleLine = .ok ⟨.yaml, .file, "n", "a", 0, 0⟩ := rfl
  have hcode : Processor.sample.code ⟨.yaml, .file, "n", "a", 0, 0⟩ ⟨{}, ()⟩ =
      .ok "k: v\n" Processor.sampleSession := rfl
  have hmissing : Directive.parse missingLine = .ok ⟨.yaml, .file, "n", "b", 0, 0⟩ := rfl
  have hfails : Processor.sample.code ⟨.yaml, .file, "n", "b", 0, 0⟩ Processor.sampleSession =
      .error (.about "b" (.allFetchersFailed [.about "b" (.transport "b" "gone")]))
        Processor.sampleSession := rfl
  exact Processor.render_eq_error_iff.2 ⟨_, _, _, _, _, _, ⟨hscanned, by decide,
    ⟨_, Processor.fill_directive_eq_ok_iff.2
      ⟨_, _, _, _, hparse, hcode, by decide, Processor.fill_nil, rfl⟩⟩,
    .code hmissing hfails⟩, rfl⟩

/-- The sample run fails at the first line of its second document. -/
private theorem run_failingWorld :
    run sample ⟨.none, ["d"]⟩ {} failingWorld =
      .error (.error (.malformedFields "<!-- pluck() -->")
        ⟨none, some ⟨.none, ["d", "b.md"]⟩, some 1⟩) failingWorld := by
  have hfiles : filesAt failingWorld.tree ⟨.none, ["d"]⟩
      (failingWorld.tree.found ⟨.none, ["d"]⟩ ["d"]) =
        .ok [⟨.none, ["d", "b.md"]⟩, ⟨.none, ["d", "a.md"]⟩] := rfl
  have hlisting : listing failingWorld.tree ⟨.none, ["d"]⟩ =
      .ok ([⟨.none, ["d", "a.md"]⟩] ++ ⟨.none, ["d", "b.md"]⟩ :: []) := by
    rw [listing_of_filesAt rfl (by decide) hfiles, Except.ok.injEq]
    cbv
  have hbefore : renderAll sample [⟨.none, ["d", "a.md"]⟩] ⟨{}, failingWorld⟩ =
      .ok [⟨⟨.none, ["d", "a.md"]⟩, "t", "t\n"⟩] ⟨{}, failingWorld⟩ := rfl
  have hread : readDocument failingWorld.tree ⟨.none, ["d", "b.md"]⟩ = .ok "<!-- pluck() -->" := rfl
  have hlines : Text.lines "<!-- pluck() -->" = ["<!-- pluck() -->"] := by decide
  have hparse : Directive.parse "<!-- pluck() -->" =
      .error (.of (.malformedFields "<!-- pluck() -->")) := rfl
  have hrender : sample.render "<!-- pluck() -->" ⟨{}, failingWorld⟩ =
      .error (.error (.malformedFields "<!-- pluck() -->") ⟨none, none, some 1⟩)
        ⟨{}, failingWorld⟩ := by
    -- The first line is a directive that cannot be read.
    refine Processor.render_eq_error_iff.2 ⟨[], _, [], _, _, _, ⟨?_, by decide, ⟨[], rfl⟩,
      .parse hparse⟩, rfl⟩
    rw [hlines]
    exact .here
  exact run_eq_error_iff.2 (.rendering hlisting hbefore hread hrender)

/-- Both failures tell their place. -/
theorem failure_located_sample :
    (∃ items line rest t uri inner,
      Processor.sample.FailsAt (Text.lines failingDocument) ⟨{}, ()⟩ items line rest t uri
          (.error (.allFetchersFailed [.about "b" (.transport "b" "gone")]) inner)
          Processor.sampleSession ∧
        Processor.sample.Locates failingDocument ⟨{}, ()⟩ items line t uri inner
          ⟨some "b", none, some 5⟩) ∧
      Fails sample ⟨.none, ["d"]⟩ {} failingWorld
        (.error (.malformedFields "<!-- pluck() -->")
          ⟨none, some ⟨.none, ["d", "b.md"]⟩, some 1⟩) failingWorld :=
  ⟨failure_located.1 _ _ _ _ _ _ render_failingDocument,
    (failure_located.2 _ _ _ _ _ _).1 run_failingWorld⟩

end

end Transclude.Run
