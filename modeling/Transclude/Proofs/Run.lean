import Mathlib
import Transclude.Proofs.FileTree
import Transclude.Proofs.Resolver
import Transclude.Run
import Transclude.Yaml.BuiltIn

/-!
# What a run leaves behind

Rendering reads files and writes none (`keeps_renderAll`), so all documents are
rendered from the files as they were before the run.  Only then are files written,
in the order of their paths: a run replaces those that changed up to the first that
cannot be written, and nothing else (`run_replaces`).

The fetchers may do what they like outside the files, but they leave the files
alone.
-/

namespace Transclude

open Transclude.Action (Keeps)

variable {σ : Type}

/-! ## Rendering leaves the files alone -/

/-- The fetcher leaves the files alone. -/
def Fetcher.KeepsTree (fetcher : Fetcher (World σ)) : Prop :=
  ∀ uri, Keeps World.tree (fetcher uri)

/-- What is fetched from outside the files is no matter of the files. -/
theorem Fetcher.keepsTree_beyond (fetcher : Fetcher σ) :
    KeepsTree fun uri => World.beyond (fetcher uri) := by
  intro uri w
  simp only [World.beyond, Action.left_within]

/-- Reading files does not change the tree. -/
theorem Fetcher.keepsTree_diskFetcher (base : Path) :
    KeepsTree (World.diskFetcher base : Fetcher (World σ)) := by
  intro uri w
  unfold World.diskFetcher
  cases Disk.fetch base w.tree uri <;> rfl

/-- The files that a session sees. -/
def Session.tree (s : Session (World σ)) : FileTree := s.world.tree

namespace Resolver

/-- Asking fetchers keeps the tree if each does. -/
private theorem keeps_fetchFrom {fetchers : List (Fetcher (World σ))}
    (h : ∀ f ∈ fetchers, f.KeepsTree)
    (uri : String) (causes : List Failure) : Keeps World.tree (fetchFrom uri causes fetchers) := by
  induction fetchers generalizing causes with
  | nil => exact fun w => rfl
  | cons fetcher rest ih =>
    intro w
    have hfetcher := h fetcher List.mem_cons_self uri w
    have hrest := ih (fun f hf => h f (List.mem_cons_of_mem _ hf))
    unfold fetchFrom
    cases hr : fetcher uri w with
    | ok data w' =>
      rw [hr] at hfetcher
      exact hfetcher
    | error e w' =>
      rw [hr] at hfetcher
      cases he : e.isFetch with
      | true =>
        -- The next fetcher is asked in the world that this one has left.
        simp only [he, if_true]
        exact (hrest (e :: causes) w').trans hfetcher
      | false =>
        simp only [he, Bool.false_eq_true, if_false]
        exact hfetcher

/-- Storing what is produced keeps the tree if producing it does. -/
private theorem keeps_derive {produce : Action (Session (World σ)) ByteArray}
    (h : Keeps Session.tree produce) (uri : String) : Keeps Session.tree (derive uri produce) := by
  intro s
  have hproduce := h s
  unfold derive
  -- Neither the lookup nor the store touches the tree.
  cases lookup s.store uri with
  | error e => rfl
  | ok found =>
    cases found with
    | some data => rfl
    | none =>
      cases hr : produce s with
      | error e t => rwa [hr] at hproduce
      | ok data t => rwa [hr] at hproduce

/-- Finding a source keeps the tree. -/
private theorem keeps_resolve {fetchers : List (Fetcher (World σ))}
    (h : ∀ f ∈ fetchers, f.KeepsTree)
    (uri : String) : Keeps Session.tree (resolve fetchers uri) := by
  refine keeps_derive (fun s => ?_) uri
  rw [Session.outside, Action.left_within]
  exact keeps_fetchFrom h uri [] s.world

end Resolver

namespace Processor

variable {p : Processor (World σ)}

/-- Getting an excerpt keeps the tree. -/
private theorem keeps_snippet (h : ∀ f ∈ p.fetchers, f.KeepsTree) (d : Directive) :
    Keeps Session.tree (p.snippet d) := by
  unfold Processor.snippet
  split
  · exact .throw _
  · rename_i extractor _
    split
    -- Resolving the source is the only step that can reach the world.
    · have hexcerpt : Keeps Session.tree (p.excerpt extractor d) :=
        (Resolver.keeps_resolve h _).bind fun _ => (Keeps.ofExcept _).bind fun _ =>
          (Keeps.ofExcept _).bind fun _ => .pure _
      exact (Resolver.keeps_derive hexcerpt _).bind fun _ => (Keeps.ofExcept _).bind fun _ =>
        .ofExcept _
    · exact .throw _

/-- Rendering a directive keeps the tree. -/
private theorem keeps_splice (h : ∀ f ∈ p.fetchers, f.KeepsTree) (line : String)
    (rest : List String) :
    Keeps Session.tree (p.splice line rest) := by
  unfold Processor.splice
  split
  · exact .throw _
  · have hcode : ∀ d, Keeps Session.tree (p.code d) := fun d =>
      (keeps_snippet h d).bind fun _ => .ofExcept _
    exact Keeps.withContext ((hcode _).bind fun _ => (Keeps.ofExcept _).bind fun _ =>
      (Keeps.ofExcept _).bind fun _ => .pure _) _

/-- Rendering lines keeps the tree. -/
private theorem keeps_renderLines (h : ∀ f ∈ p.fetchers, f.KeepsTree) (number passing : Nat)
    (lines : List String) : Keeps Session.tree (p.renderLines number passing lines) := by
  induction lines generalizing number passing with
  | nil => exact .pure _
  | cons line rest ih =>
    unfold Processor.renderLines
    split
    · exact ih _ _
    · split
      · exact ((keeps_splice h line rest).withContext _).bind fun _ =>
          (ih _ _).bind fun _ => .pure _
      · exact (ih _ _).bind fun _ => .pure _

/-- A document is rendered without touching the files. -/
theorem keeps_render (h : ∀ f ∈ p.fetchers, f.KeepsTree) (document : String) :
    Keeps Session.tree (p.render document) := by
  unfold Processor.render
  split
  · exact .pure _
  · exact keeps_renderLines h _ _ _

end Processor

namespace Run

open Transclude.Action (Keeps)

variable {p : Processor (World σ)}

/-- Rendering a document keeps the tree. -/
private theorem keeps_renderFile (h : ∀ f ∈ p.fetchers, f.KeepsTree) (path : Path) :
    Keeps Session.tree (renderFile p path) := by
  refine Keeps.withContext ?_ _
  have hget : Keeps Session.tree (get : Action (Session (World σ)) (Session (World σ))) :=
    fun _ => rfl
  exact hget.bind fun _ => (Keeps.ofExcept _).bind fun _ =>
    (Processor.keeps_render h _).bind fun _ => .pure _

/-- Rendering all documents keeps the tree. -/
theorem keeps_renderAll (h : ∀ f ∈ p.fetchers, f.KeepsTree) (paths : List Path) :
    Keeps Session.tree (renderAll p paths) := by
  induction paths with
  | nil => exact .pure _
  | cons path rest ih =>
    exact (keeps_renderFile h path).bind fun _ => ih.bind fun _ => .pure _

/-! ## What is rendered -/

/-- The documents at some paths, rendered in turn, each from the files in `tree`. -/
inductive Renders (p : Processor (World σ)) (tree : FileTree) :
    Session (World σ) → List Path → List Rendering → Session (World σ) → Prop where
  | nil {s : Session (World σ)} : Renders p tree s [] [] s
  | cons {s s' s'' : Session (World σ)} {path : Path} {paths : List Path} {before after : String}
    {renderings : List Rendering} (htree : s.tree = tree)
    (hread : readDocument tree path = .ok before) (hrender : p.render before s = .ok after s')
    (hrest : Renders p tree s' paths renderings s'') :
    Renders p tree s (path :: paths) (⟨path, before, after⟩ :: renderings) s''

/-- A document is rendered by reading it and rendering what it says. -/
theorem renderFile_eq_ok_iff {path : Path} {r : Rendering} {s s' : Session (World σ)} :
    renderFile p path s = .ok r s' ↔
      ∃ before after, readDocument s.tree path = .ok before ∧ p.render before s = .ok after s' ∧
        r = ⟨path, before, after⟩ := by
  have hget : (get : Action (Session (World σ)) (Session (World σ))) s = .ok s s := rfl
  -- Reading leaves the session as it is.
  simp only [renderFile, Action.withContext_eq_ok_iff, readAndRender, Action.bind_eq_ok_iff, hget,
    EStateM.Result.ok.injEq, Action.ofExcept_eq_ok_iff, Action.pure_apply]
  constructor
  · rintro ⟨_, _, ⟨rfl, rfl⟩, before, _, ⟨hread, rfl⟩, after, _, hrender, rfl, rfl⟩
    exact ⟨before, after, hread, hrender, rfl⟩
  · rintro ⟨before, after, hread, hrender, rfl⟩
    exact ⟨s, s, ⟨rfl, rfl⟩, before, s, ⟨hread, rfl⟩, after, s', hrender, rfl, rfl⟩

/-- Where fetchers leave the files alone, all documents are rendered from the same files. -/
theorem renderAll_eq_ok_iff (h : ∀ f ∈ p.fetchers, f.KeepsTree) {paths : List Path}
    {renderings : List Rendering} {tree : FileTree} {s s' : Session (World σ)}
    (hs : s.tree = tree) :
    renderAll p paths s = .ok renderings s' ↔ Renders p tree s paths renderings s' := by
  induction paths generalizing renderings s with
  | nil =>
    constructor
    · intro hr
      cases hr
      exact .nil
    · intro hr
      cases hr
      rfl
  -- The tree stays as it is from file to file, so each file is read from the first one.
  | cons path paths ih =>
    simp only [renderAll, Action.bind_eq_ok_iff, renderFile_eq_ok_iff, Action.pure_apply,
      EStateM.Result.ok.injEq, hs]
    constructor
    · rintro ⟨_, t, ⟨before, after, hread, hrender, rfl⟩, rest, t', hrest, rfl, rfl⟩
      have ht : t.tree = tree := ((Processor.keeps_render h before).of_ok hrender).trans hs
      exact .cons hs hread hrender ((ih ht).1 hrest)
    · intro hr
      cases hr with
      | @cons _ t _ _ _ before after rest _ hread hrender hrest =>
        have ht : t.tree = tree := ((Processor.keeps_render h before).of_ok hrender).trans hs
        exact ⟨_, t, ⟨before, after, hread, hrender, rfl⟩, rest, s', (ih ht).2 hrest, rfl, rfl⟩

/-- There is one rendering for each path. -/
theorem Renders.map_path {tree : FileTree} {s s' : Session (World σ)} {paths : List Path}
    {renderings : List Rendering} (h : Renders p tree s paths renderings s') :
    renderings.map Rendering.path = paths := by
  induction h with
  | nil => rfl
  | cons _ _ _ _ ih => rw [List.map_cons, ih]

/-- A document that has been rendered is a file. -/
theorem Renders.exists_file {tree : FileTree} {s s' : Session (World σ)} {paths : List Path}
    {renderings : List Rendering} (h : Renders p tree s paths renderings s') :
    ∀ r ∈ renderings, ∃ place, tree.resolve r.path = .ok place ∧ (tree.file? place).isSome := by
  induction h with
  | nil => simp
  | @cons _ _ _ path _ before _ _ _ hread _ _ ih =>
    intro r hr
    rcases List.mem_cons.1 hr with rfl | hr
    -- A file that has been read is there.
    · unfold readDocument at hread
      cases hdata : tree.read path with
      | error obstacle => rw [hdata] at hread; cases hread
      | ok data =>
        obtain ⟨place, hplace, hfile⟩ := FileTree.exists_of_read_eq_ok hdata
        exact ⟨place, hplace, by rw [hfile]; rfl⟩
    · exact ih r hr

/-! ## Order -/

/-- No path in the list comes before an earlier one. -/
def InOrder (paths : List Path) : Prop := paths.Pairwise fun q r => r.before q = false

/-- Sorted paths are in order. -/
theorem inOrder_mergeSort (paths : List Path) :
    InOrder (paths.mergeSort fun q r => !r.before q) := by
  have hbefore : ∀ q r : Path, (!r.before q) = true ↔ ¬r.orderKey < q.orderKey := fun q r => by
    simp [Path.before]
  -- A sort needs an order that is transitive and total.
  refine (List.pairwise_mergeSort (fun a b c => ?_) (fun a b => ?_) paths).imp fun h => ?_
  · rw [hbefore, hbefore, hbefore]
    exact List.le_trans (α := String)
  · rw [Bool.or_eq_true, hbefore, hbefore]
    exact List.le_total (α := String) _ _
  · simpa using h

/-- The listing of a directory: those of the files that are found which are Markdown. -/
theorem listing_of_filesAt {tree : FileTree} {directory : Path} {place : Place} {files : List Path}
    (hplace : tree.resolve directory = .ok place) (hdirectory : tree.isDirectoryAt place = true)
    (hfiles : filesAt tree directory (tree.found directory place) = .ok files) :
    listing tree directory =
      .ok ((files.filter Path.isMarkdown).mergeSort fun p q => !q.before p) := by
  have htrue : tree.isDirectory directory = .ok true := by
    simp only [FileTree.isDirectory, FileTree.holds, hplace, hdirectory]
  simp only [listing, htrue, hplace, hfiles]
  rfl

/-- The documents of a run are Markdown files, and in order. -/
theorem inOrder_of_listing {tree : FileTree} {directory : Path} {paths : List Path}
    (h : listing tree directory = .ok paths) :
    InOrder paths ∧ ∀ path ∈ paths, path.isMarkdown = true := by
  unfold listing at h
  split at h
  · cases h
  · cases h
  · split at h
    · cases h
    · rename_i place hplace
      -- The order is that of the sort, the endings are those of the filter.
      cases hfiles : filesAt tree directory (tree.found directory place) with
      | error e => rw [hfiles] at h; cases h
      | ok files =>
        rw [hfiles] at h
        cases h
        refine ⟨inOrder_mergeSort _, fun path hpath => ?_⟩
        rw [List.mem_mergeSort, List.mem_filter] at hpath
        exact hpath.2

/-! ## Writing -/

/-- What is written for a rendering, and where. -/
def Rendering.output (r : Rendering) : Path × ByteArray := (r.path, Text.encode r.after)

@[simp] theorem Rendering.fst_output (r : Rendering) : r.output.1 = r.path := rfl

/-- Bytes under a path go into the file at a place. -/
def isFor (tree : FileTree) (place : Place) (piece : Path × ByteArray) : Bool :=
  (tree.resolve piece.1).toOption = some place

/-- A piece is for the place that its path leads to. -/
theorem isFor_iff {tree : FileTree} {place : Place} {piece : Path × ByteArray} :
    isFor tree place piece = true ↔ tree.resolve piece.1 = .ok place := by
  unfold isFor
  cases tree.resolve piece.1 <;> simp [Except.toOption]

/-- What is at a place after bytes have been put under some paths, one after the other. -/
def written? (tree : FileTree) (pieces : List (Path × ByteArray)) (place : Place) :
    Option ByteArray :=
  match pieces.reverse.find? (isFor tree place) with
  | some (_, data) => some data
  | none => tree.file? place

/-- The trees have the same files and directories, and the files hold the same but for those whose
    bytes have been replaced. -/
structure Replaces (tree : FileTree) (pieces : List (Path × ByteArray)) (tree' : FileTree) :
    Prop where
  outline : tree'.outline = tree.outline
  file? : ∀ place, tree'.file? place = written? tree pieces place

private theorem Replaces.nil (tree : FileTree) : Replaces tree [] tree := ⟨rfl, fun _ => rfl⟩

/-- The bytes of one more file are replaced. -/
private theorem Replaces.concat {tree tree' : FileTree} {pieces : List (Path × ByteArray)}
    {path : Path} {place : Place} {data : ByteArray} (h : Replaces tree pieces tree')
    (hplace : tree.resolve path = .ok place) (hsome : (tree.file? place).isSome) :
    Replaces tree (pieces ++ [(path, data)]) (tree'.withFile place data) := by
  have hsome' : (tree'.file? place).isSome := by
    rw [FileTree.isSome_file?_congr h.outline]
    exact hsome
  refine ⟨(FileTree.outline_withFile hsome').trans h.outline, fun other => ?_⟩
  rw [FileTree.file?_withFile, h.file?, written?, written?, List.reverse_append,
    List.reverse_singleton, List.singleton_append, List.find?_cons]
  -- At the place itself the last piece wins; at any other place the earlier ones decide.
  by_cases hother : other = place
  · have hfor : isFor tree other (path, data) = true := isFor_iff.2 (by rw [hother, hplace])
    simp only [hfor, if_pos hother]
  · have hfor : isFor tree other (path, data) = false := by
      rw [Bool.eq_false_iff, ne_eq, isFor_iff, hplace, Except.ok.injEq]
      exact fun he => hother he.symm
    simp only [hfor, if_neg hother]

/-- A place to which none of the paths leads is left alone. -/
theorem Replaces.file?_eq {tree tree' : FileTree} {pieces : List (Path × ByteArray)}
    {place : Place} (h : Replaces tree pieces tree')
    (hplace : ∀ piece ∈ pieces, tree.resolve piece.1 ≠ .ok place) :
    tree'.file? place = tree.file? place := by
  -- No piece is for the place.
  have hnone : pieces.reverse.find? (isFor tree place) = none := by
    rw [List.find?_eq_none]
    intro piece hpiece
    rw [isFor_iff]
    exact hplace piece (List.mem_reverse.1 hpiece)
  rw [h.file?, written?, hnone]

/-- The failure of a file that cannot be written. -/
def refusal (r : Rendering) (obstacle : FileTree.Obstacle) : Failure :=
  .error (.unwritableDocument (obstacle.report r.path)) { path := some r.path }

/-- What has been put into the file of a rendering that cannot be written: nothing, if the file
    cannot be opened; and if there is no room for all of the rendering, a part of it. -/
inductive Torn (tree : FileTree) (r : Rendering) :
    FileTree.Obstacle → List (Path × ByteArray) → Prop where
  | unopened {obstacle : FileTree.Obstacle} (h : tree.openToWrite r.path = .error obstacle) :
    Torn tree r obstacle []
  | noRoom {place : Place} {room : Nat} (hplace : tree.openToWrite r.path = .ok place)
    (hroom : tree.fitting place r.output.2 = room) (h : room < r.output.2.size) :
    Torn tree r .noRoom [(r.path, r.output.2.extract 0 room)]

/-- What is put into a file that cannot be written is under its path. -/
theorem Torn.fst_eq {tree : FileTree} {r : Rendering} {obstacle : FileTree.Obstacle}
    {torn : List (Path × ByteArray)} (h : Torn tree r obstacle torn) :
    ∀ piece ∈ torn, piece.1 = r.path := by
  cases h with
  | unopened => simp
  | noRoom => simp

/-- Files are replaced up to the first that cannot be written. -/
theorem writeAll_replaces {tree tree' : FileTree} {done : List (Path × ByteArray)}
    {rest : List Rendering} (h : Replaces tree done tree')
    (hfile : ∀ r ∈ rest, ∃ place, tree.resolve r.path = .ok place ∧ (tree.file? place).isSome) :
    match writeAll rest tree' with
    | .ok () tree'' => Replaces tree (done ++ rest.map Rendering.output) tree''
    | .error e tree'' =>
      ∃ more r later obstacle torn, rest = more ++ r :: later ∧ Torn tree r obstacle torn ∧
        Replaces tree (done ++ more.map Rendering.output ++ torn) tree'' ∧
        e = refusal r obstacle := by
  induction rest generalizing done tree' with
  | nil =>
    show Replaces tree (done ++ []) tree'
    rwa [List.append_nil]
  | cons r rest ih =>
    obtain ⟨place, hplace, hsome⟩ := hfile r List.mem_cons_self
    have hput : ∀ data, Replaces tree (done ++ [(r.path, data)]) (tree'.withFile place data) :=
      fun data => h.concat hplace hsome
    -- The path still leads where it led before.
    have hopen := FileTree.openToWrite_congr h.outline r.path
    have hsame : ∀ place', tree'.openToWrite r.path = .ok place' → place' = place := by
      intro place' hplace'
      have hresolve := FileTree.resolve_of_openToWrite hplace'
      rw [FileTree.resolve_congr h.outline, hplace, Except.ok.injEq] at hresolve
      exact hresolve.symm
    unfold writeAll
    rcases FileTree.write_cases r.path (Text.encode r.after) tree' with
      ⟨obstacle, hrefused, hwrite⟩ | ⟨place', hopened, ⟨hroom, hwrite⟩ | hwrite⟩
    case inl =>
      rw [hwrite]
      refine ⟨[], r, rest, obstacle, [], rfl, .unopened (by rw [← hopen, hrefused]), ?_, rfl⟩
      simpa using h
    case inr.inl =>
      -- The file has been opened, so it holds a part of the rendering.
      obtain rfl := hsame place' hopened
      have hfitting : tree'.fitting place' (Text.encode r.after) =
          tree.fitting place' (Text.encode r.after) := by
        have hroom' : tree'.outline.room = tree.outline.room := congrArg FileTree.room h.outline
        replace hroom' : tree'.room = tree.room := hroom'
        rw [FileTree.fitting, FileTree.fitting, hroom']
      rw [hwrite]
      rw [hfitting] at hroom ⊢
      refine ⟨[], r, rest, .noRoom, _, rfl, .noRoom (by rw [← hopen, hopened]) rfl hroom, ?_, rfl⟩
      simpa [Rendering.output] using hput _
    case inr.inr =>
      obtain rfl := hsame place' hopened
      rw [hwrite]
      have hnext := ih (hput (Text.encode r.after)) fun r' hr' =>
        hfile r' (List.mem_cons_of_mem _ hr')
      dsimp only
      split at hnext
      · simpa [Rendering.output] using hnext
      · obtain ⟨more, r', later, obstacle, torn, rfl, htorn, hreplaces, rfl⟩ := hnext
        exact ⟨r :: more, r', later, obstacle, torn, rfl, htorn,
          by simpa [Rendering.output] using hreplaces, rfl⟩

/-! ## Runs -/

/-- Every document below the directory, rendered from the files as they are in `w`. -/
def AllRendered (p : Processor (World σ)) (directory : Path) (w : World σ)
    (renderings : List Rendering) : Prop :=
  ∃ paths s, listing w.tree directory = .ok paths ∧ Renders p w.tree ⟨{}, w⟩ paths renderings s

/-- How a run ends that replaces the files of `written`: well after all documents have been
    rendered, with the paths of those that change; or because not all of them render, and then
    nothing is written; or at the first file that cannot be written, into which `torn` has been
    put. -/
def Ends (p : Processor (World σ)) (directory : Path) (options : Options) (w : World σ)
    (written : List Rendering) (torn : List (Path × ByteArray)) :
    EStateM.Result Failure (World σ) (List Path) → Prop
  | .ok paths _ =>
    ∃ renderings, AllRendered p directory w renderings ∧
      paths = (renderings.filter Rendering.changed).map Rendering.path ∧
      written = (if options.write then renderings.filter Rendering.changed else []) ∧ torn = []
  | .error e _ =>
    (written = [] ∧ torn = [] ∧ ¬∃ renderings, AllRendered p directory w renderings) ∨
      ∃ renderings r later obstacle, AllRendered p directory w renderings ∧
        options.write = true ∧ renderings.filter Rendering.changed = written ++ r :: later ∧
        Torn w.tree r obstacle torn ∧ e = refusal r obstacle

/-- The documents that change are written, in turn, if the run is to write. -/
private theorem exists_ends_of_rendered {directory : Path} {options : Options} {w : World σ}
    {paths : List Path} {renderings : List Rendering} {s : Session (World σ)}
    (hlisting : listing w.tree directory = .ok paths)
    (hrenders : Renders p w.tree ⟨{}, w⟩ paths renderings s)
    (hrender : renderAll p paths ⟨{}, w⟩ = .ok renderings s) (htree : s.tree = w.tree) :
    ∃ written torn, Replaces w.tree (written.map Rendering.output ++ torn)
        (Action.left (run p directory options w)).tree ∧
      Ends p directory options w written torn (run p directory options w) := by
  have hall : AllRendered p directory w renderings := ⟨paths, s, hlisting, hrenders⟩
  -- Only files that have been read are written, so each write goes to a file that is there.
  have hfile : ∀ r ∈ renderings.filter Rendering.changed,
      ∃ place, w.tree.resolve r.path = .ok place ∧ (w.tree.file? place).isSome :=
    fun r hr => hrenders.exists_file r (List.mem_filter.1 hr).1
  have hworld : s.world.tree = w.tree := htree
  simp only [run, hlisting, hrender]
  cases hoption : options.write with
  -- Without the option nothing is written.
  | false => exact ⟨[], [], hworld ▸ .nil _, renderings, hall, rfl, by rw [hoption]; simp, rfl⟩
  | true =>
    have hwrite := writeAll_replaces (.nil w.tree) hfile
    rw [if_pos rfl, hworld]
    cases hresult : writeAll (renderings.filter Rendering.changed) w.tree with
    | ok _ tree =>
      rw [hresult] at hwrite
      refine ⟨_, [], ?_, renderings, hall, rfl, by rw [hoption, if_pos rfl], rfl⟩
      rwa [List.append_nil]
    | error e tree =>
      rw [hresult] at hwrite
      -- One write has failed: the pieces before it are there, and its own may be torn.
      obtain ⟨done, r, later, obstacle, torn, hchanged, htorn, hreplaces, rfl⟩ := hwrite
      exact ⟨done, torn, hreplaces,
        .inr ⟨renderings, r, later, obstacle, hall, hoption, hchanged, htorn, rfl⟩⟩

/-- Every run replaces some files and ends accordingly. -/
theorem exists_ends (hp : ∀ f ∈ p.fetchers, f.KeepsTree) (directory : Path) (options : Options)
    (w : World σ) :
    ∃ written torn, Replaces w.tree (written.map Rendering.output ++ torn)
        (Action.left (run p directory options w)).tree ∧
      Ends p directory options w written torn (run p directory options w) := by
  cases hlisting : listing w.tree directory with
  | error e =>
    simp only [run, hlisting]
    refine ⟨[], [], .nil _, .inl ⟨rfl, rfl, ?_⟩⟩
    rintro ⟨_, _, _, hpaths, -⟩
    rw [hlisting] at hpaths
    cases hpaths
  | ok paths =>
    have hiff := fun renderings s =>
      @renderAll_eq_ok_iff σ p hp paths renderings w.tree ⟨{}, w⟩ s rfl
    cases hrender : renderAll p paths ⟨{}, w⟩ with
    | error e s =>
      have htree : s.world.tree = w.tree := (keeps_renderAll hp paths).of_error hrender
      simp only [run, hlisting, hrender]
      refine ⟨[], [], htree ▸ .nil _, .inl ⟨rfl, rfl, ?_⟩⟩
      -- Had all documents been rendered, there would have been no failure.
      rintro ⟨renderings, _, s', hpaths, hrenders⟩
      rw [hlisting] at hpaths
      cases hpaths
      rw [(hiff renderings s').2 hrenders] at hrender
      cases hrender
    | ok renderings s =>
      exact exists_ends_of_rendered hlisting ((hiff renderings s).1 hrender) hrender
        ((keeps_renderAll hp paths).of_ok hrender)

/-- What a run writes goes to documents that it has rendered, and whole renderings are written in
    their order. -/
private theorem Ends.sublist {directory : Path} {options : Options} {w : World σ}
    {written : List Rendering} {torn : List (Path × ByteArray)}
    {result : EStateM.Result Failure (World σ) (List Path)}
    (h : Ends p directory options w written torn result) :
    (written = [] ∧ torn = []) ∨ ∃ renderings, AllRendered p directory w renderings ∧
      written.Sublist renderings ∧ ∀ piece ∈ torn, ∃ r ∈ renderings, r.path = piece.1 := by
  cases result with
  | ok paths w' =>
    obtain ⟨renderings, hall, -, rfl, rfl⟩ := h
    cases options.write with
    | false => exact .inl ⟨rfl, rfl⟩
    | true => exact .inr ⟨renderings, hall, List.filter_sublist, by simp⟩
  | error e w' =>
    rcases h with ⟨rfl, rfl, -⟩ | ⟨renderings, r, later, obstacle, hall, -, hchanged, htorn, -⟩
    · exact .inl ⟨rfl, rfl⟩
    -- The file of the failing write is one of those that were rendered.
    · have hsublist : (written ++ r :: later).Sublist renderings := by
        rw [← hchanged]
        exact List.filter_sublist
      refine .inr ⟨renderings, hall, (List.sublist_append_left _ _).trans hsublist, ?_⟩
      intro piece hpiece
      exact ⟨r, hsublist.subset (List.mem_append_right _ List.mem_cons_self),
        (htorn.fst_eq piece hpiece).symm⟩

/-- A processor that looks for sources on disk. -/
def sample : Processor (World Unit) where
  extractors _ := some (Extractor.yaml Yaml.builtIn)
  fetchers := [World.diskFetcher ⟨.none, []⟩]

end Run

end Transclude
