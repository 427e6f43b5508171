import Transclude.Proofs.FileTree.Below
import Transclude.Proofs.Run
import Transclude.Proofs.Text.Search

/-!
# Which documents a run finds

The listing of a directory holds the Markdown files below it, every one of them once and in
the order of their names (`lists_listing`), if nothing hinders it (`Open`).  Otherwise it may
be missing what stands in a directory that may not be listed, or it ends with a fault
(`Unlisted`): a path is too long to be looked up, a directory may not be searched, or
directories stand too deep inside of each other.  Then what is no directory is not called so
(`listing_of_long_name`).
-/

namespace Transclude

namespace Path

variable {name : List Char} {path : Path}

/-! ## Names of Markdown files -/

/-- The name ends with a point and `ending`, and something stands in front of the point and behind
    it. -/
structure EndsWith (name stem ending : List Char) : Prop where
  name_eq : name = stem ++ '.' :: ending
  stem_ne_nil : stem ≠ []
  ending_ne_nil : ending ≠ []
  no_point : '.' ∉ ending

/-- The suffix starts at the last point. -/
theorem suffixOf_append (stem : List Char) {ending : List Char} (h : '.' ∉ ending) :
    suffixOf (stem ++ '.' :: ending) = if stem = [] ∨ ending = [] then [] else '.' :: ending := by
  -- The suffix is read from the back of the name.
  have hreverse : (stem ++ '.' :: ending).reverse = ending.reverse ++ '.' :: stem.reverse := by simp
  have htail : (stem ++ '.' :: ending).reverse.takeWhile (· ≠ '.') = ending.reverse := by
    rw [hreverse]
    refine Text.takeWhile_append (fun c hc => ?_) (by simp)
    rw [decide_eq_true_eq]
    rintro rfl
    exact h (List.mem_reverse.1 hc)
  -- No stem in front of the point means that the name starts with it.
  have hlength : (stem ++ '.' :: ending).length < ending.length + 2 ↔ stem = [] := by
    rw [← List.length_eq_zero_iff, List.length_append, List.length_cons]
    omega
  simp only [suffixOf, htail, List.reverse_reverse, Bool.or_eq_true, List.isEmpty_iff,
    decide_eq_true_eq, hlength]
  congr 1
  rw [or_comm]

/-- A name without a point has no suffix. -/
private theorem suffixOf_of_no_point (h : '.' ∉ name) : suffixOf name = [] := by
  have htail : name.reverse.takeWhile (· ≠ '.') = name.reverse := by
    rw [List.takeWhile_eq_self_iff]
    intro c hc
    rw [decide_eq_true_eq]
    rintro rfl
    exact h (List.mem_reverse.1 hc)
  simp only [suffixOf, htail, List.reverse_reverse, Bool.or_eq_true, List.isEmpty_iff,
    decide_eq_true_eq]
  -- Without a point the whole name is the tail, and the name is not longer than that.
  exact if_pos (.inr (by omega))

/-- A name without a point, or the part of it from the last point on. -/
theorem no_point_or_exists_last (name : List Char) :
    '.' ∉ name ∨ ∃ stem ending, name = stem ++ '.' :: ending ∧ '.' ∉ ending := by
  by_cases h : '.' ∈ name
  · obtain ⟨front, back, hname, hfront⟩ := List.eq_append_cons_of_mem (List.mem_reverse.2 h)
    refine .inr ⟨back.reverse, front.reverse, ?_, by simpa using hfront⟩
    rw [← List.reverse_reverse name, hname]
    simp
  · exact .inl h

/-- A name has no suffix, or it has a stem and an ending. -/
private theorem suffixOf_cases (name : List Char) :
    (suffixOf name = [] ∧ ∀ stem ending, ¬EndsWith name stem ending) ∨
      ∃ stem ending, EndsWith name stem ending ∧ suffixOf name = '.' :: ending := by
  rcases no_point_or_exists_last name with h | ⟨stem, ending, rfl, h⟩
  · refine .inl ⟨suffixOf_of_no_point h, fun stem ending hends => h ?_⟩
    rw [hends.name_eq]
    simp
  · have hsuffix := suffixOf_append stem h
    by_cases hempty : stem = [] ∨ ending = []
    · rw [if_pos hempty] at hsuffix
      refine .inl ⟨hsuffix, fun stem' ending' hends => ?_⟩
      -- Another way to end with a suffix would give another suffix.
      rw [hends.name_eq, suffixOf_append stem' hends.no_point,
        if_neg (not_or.2 ⟨hends.stem_ne_nil, hends.ending_ne_nil⟩)] at hsuffix
      cases hsuffix
    · rw [if_neg hempty] at hsuffix
      rw [not_or] at hempty
      exact .inr ⟨stem, ending, ⟨rfl, hempty.1, hempty.2, h⟩, hsuffix⟩

/-- The name of a Markdown file: the lower case of its suffix is that of Markdown. -/
def MarkdownName (name : String) : Prop :=
  ∃ stem ending, EndsWith name.toList stem ending ∧
    String.ofList (Text.lower ('.' :: ending)) ∈ [".md", ".markdown"]

/-- A Markdown file is one with such a name. -/
private theorem isMarkdown_iff : path.isMarkdown = true ↔ MarkdownName path.name := by
  rw [isMarkdown, List.contains_iff_mem, suffix, Text.lowercase, String.toList_ofList]
  rcases suffixOf_cases path.name.toList with ⟨hsuffix, hnone⟩ | ⟨stem, ending, hends, hsuffix⟩
  -- A name with no ending has none of the endings of a document.
  · have hempty : String.ofList (Text.lower []) ∉ markdownSuffixes := by decide
    rw [hsuffix]
    constructor
    · exact fun h => absurd h hempty
    · rintro ⟨stem, ending, hends, -⟩
      exact absurd hends (hnone stem ending)
  · rw [hsuffix]
    constructor
    · exact fun h => ⟨stem, ending, hends, h⟩
    · rintro ⟨stem', ending', hends', h⟩
      have hsuffix' := suffixOf_append stem' hends'.no_point
      rw [← hends'.name_eq, hsuffix,
        if_neg (not_or.2 ⟨hends'.stem_ne_nil, hends'.ending_ne_nil⟩)] at hsuffix'
      rwa [hsuffix']

/-! ## Paths below a path -/

/-- Different names below a directory are different paths. -/
private theorem under_injective (path : Path) :
    Function.Injective fun names => path.under ⟨.none, names⟩ := by
  intro names names' h
  have hnames : path.names ++ names = path.names ++ names' := congrArg Path.names h
  exact List.append_cancel_left hnames

/-- Paths with the same root are in the order of their names. -/
theorem before_iff {p q : Path} (h : p.root = q.root) : p.before q = true ↔ p.names < q.names := by
  rw [before, decide_eq_true_eq, orderKey, orderKey, h]
  split
  · rfl
  · simp

end Path

namespace Run

variable {tree : FileTree} {directory : Path} {place : Place}

/-! ## Files among what is found -/

/-- The names lead to a file. -/
private def leadsToFile (tree : FileTree) (directory : Path) (names : List String) : Bool :=
  match tree.isFile (directory.under ⟨.none, names⟩) with
  | .ok isFile => isFile
  | .error _ => false

/-- What hinders a listing: the path of the directory or of what is below it cannot be looked up, or
    a directory is too deep below it. -/
inductive Unlisted (tree : FileTree) (directory : Path) : Fault → Prop where
  | self {obstacle : FileTree.Obstacle} (h : tree.resolve directory = .error obstacle)
    (hhides : obstacle.hides = true) :
    Unlisted tree directory ⟨.operatingSystem, obstacle.report directory⟩
  | below {place : Place} {names : List String} {obstacle : FileTree.Obstacle}
    (hplace : tree.resolve directory = .ok place) (hnames : names ∈ tree.found directory place)
    (h : tree.resolve (directory.under ⟨.none, names⟩) = .error obstacle)
    (hhides : obstacle.hides = true) :
    Unlisted tree directory
      ⟨.operatingSystem, obstacle.report (directory.under ⟨.none, names⟩)⟩
  | deep {place : Place} {names : List String} (hplace : tree.resolve directory = .ok place)
    (hnames : names ∈ tree.found directory place)
    (hfile : tree.isFile (directory.under ⟨.none, names⟩) = .ok false)
    (hdeep : Fault.callDepth ≤ names.length) : Unlisted tree directory Fault.tooDeep

/-- Something is hidden from those who ask what it is. -/
theorem resolve_of_holds_eq_error {path : Path} {kind : Place → Bool} {obstacle : FileTree.Obstacle}
    (h : tree.holds path kind = .error obstacle) :
    tree.resolve path = .error obstacle ∧ obstacle.hides = true := by
  unfold FileTree.holds at h
  cases hresolve : tree.resolve path with
  | ok place => rw [hresolve] at h; cases h
  | error found =>
    rw [hresolve] at h
    cases hhides : found.hides with
    | true =>
      simp only [hhides, if_true] at h
      cases h
      exact ⟨rfl, hhides⟩
    | false => simp only [hhides, Bool.false_eq_true, if_false] at h; cases h

/-- Looking at names gives their path if it leads to a file, or it is hindered. -/
private theorem fileAt_cases (hplace : tree.resolve directory = .ok place) {names : List String}
    (hnames : names ∈ tree.found directory place) :
    fileAt tree directory names = .ok (if leadsToFile tree directory names then
        some (directory.under ⟨.none, names⟩) else none) ∨
      ∃ f, fileAt tree directory names = .error (.fault f) ∧ Unlisted tree directory f := by
  unfold fileAt leadsToFile
  dsimp only
  cases hfile : tree.isFile (directory.under ⟨.none, names⟩) with
  | error obstacle =>
    obtain ⟨hresolve, hhides⟩ := resolve_of_holds_eq_error hfile
    exact .inr ⟨_, rfl, .below hplace hnames hresolve hhides⟩
  | ok isFile =>
    cases isFile with
    | true => exact .inl rfl
    | false =>
      by_cases hdeep : Fault.callDepth ≤ names.length
      · exact .inr ⟨_, if_pos hdeep, .deep hplace hnames hfile hdeep⟩
      · exact .inl (if_neg hdeep)

/-- Looking at names in turn ends with the paths of the files among them, or it is hindered. -/
private theorem filesAt_cases {found : List (List String)}
    (hplace : tree.resolve directory = .ok place)
    (hfound : found ⊆ tree.found directory place) :
    filesAt tree directory found = .ok ((found.filter (leadsToFile tree directory)).map fun names =>
        directory.under ⟨.none, names⟩) ∨
      ∃ f, filesAt tree directory found = .error (.fault f) ∧ Unlisted tree directory f := by
  induction found with
  | nil => exact .inl rfl
  | cons names rest ih =>
    obtain ⟨hnames, hrest⟩ := List.cons_subset.1 hfound
    unfold filesAt
    rcases fileAt_cases hplace hnames with hfile | ⟨f, hfile, hunlisted⟩
    · rcases ih hrest with hfiles | ⟨f, hfiles, hunlisted⟩
      · left
        rw [hfile, hfiles, List.filter_cons]
        cases leadsToFile tree directory names <;> rfl
      · exact .inr ⟨f, by rw [hfile, hfiles]; rfl, hunlisted⟩
    · exact .inr ⟨f, by rw [hfile]; rfl, hunlisted⟩

/-! ## The listing of a directory -/

/-- The Markdown files among what is found below a place, in order. -/
private def documents (tree : FileTree) (directory : Path) (place : Place) : List Path :=
  ((((tree.found directory place).filter (leadsToFile tree directory)).map fun names =>
    directory.under ⟨.none, names⟩).filter Path.isMarkdown).mergeSort fun p q => !q.before p

/-- How a listing ends. -/
theorem listing_cases (tree : FileTree) (directory : Path) :
    (∃ place, tree.resolve directory = .ok place ∧ tree.isDirectoryAt place = true ∧
        listing tree directory = .ok (documents tree directory place)) ∨
      (¬tree.HasDirectory directory ∧
        listing tree directory = .error (.of (.notADirectory directory))) ∨
      ∃ f, listing tree directory = .error (.fault f) ∧ Unlisted tree directory f := by
  cases hdirectory : tree.isDirectory directory with
  | error obstacle =>
    obtain ⟨hresolve, hhides⟩ := resolve_of_holds_eq_error hdirectory
    exact .inr (.inr ⟨_, by simp only [listing, hdirectory, fault], .self hresolve hhides⟩)
  | ok isDirectory =>
    have hresolve : ∀ place, tree.resolve directory = .ok place →
        tree.isDirectoryAt place = isDirectory := by
      intro place hplace
      simpa only [FileTree.isDirectory, FileTree.holds, hplace, Except.ok.injEq] using hdirectory
    cases isDirectory with
    | false =>
      refine .inr (.inl ⟨?_, by simp only [listing, hdirectory]⟩)
      rintro ⟨place, hplace, htrue⟩
      rw [hresolve place hplace] at htrue
      cases htrue
    | true =>
      cases hplace : tree.resolve directory with
      | error obstacle =>
        -- Where the path leads nowhere, no directory is seen.
        rw [FileTree.isDirectory, FileTree.holds, hplace] at hdirectory
        dsimp only at hdirectory
        split at hdirectory <;> cases hdirectory
      | ok place =>
        rcases filesAt_cases hplace (List.Subset.refl _) with hfiles | ⟨f, hfiles, hunlisted⟩
        · exact .inl ⟨place, rfl, hresolve place hplace,
            listing_of_filesAt hplace (hresolve place hplace) hfiles⟩
        · refine .inr (.inr ⟨f, ?_, hunlisted⟩)
          simp only [listing, hdirectory, hplace, hfiles]
          rfl

/-- Nothing hinders a listing: neither the directory nor anything below it is hidden, and every
    directory below it can be listed and is not too deep. -/
structure Open (tree : FileTree) (directory : Path) : Prop where
  self {obstacle : FileTree.Obstacle} (h : tree.resolve directory = .error obstacle) :
    obstacle.hides = false
  below {place : Place} {names : List String} {obstacle : FileTree.Obstacle}
    (hplace : tree.resolve directory = .ok place) (hnames : tree.Occupied (place ++ names))
    (h : tree.resolve (directory.under ⟨.none, names⟩) = .error obstacle) : obstacle.hides = false
  listed {place : Place} {names : List String} (hplace : tree.resolve directory = .ok place)
    (hnames : tree.isDirectoryAt (place ++ names) = true) :
    tree.unreadable.contains (place ++ names) = false
  shallow {place : Place} {names : List String} (hplace : tree.resolve directory = .ok place)
    (hnames : tree.isDirectoryAt (place ++ names) = true) : names.length < Fault.callDepth

/-- It is enough to look at what is below the directory. -/
theorem open_of_forall (hplace : tree.resolve directory = .ok place)
    (hbelow : ∀ names ∈ [] :: tree.directoriesBelow place ++ tree.filesBelow place,
      (tree.resolve (directory.under ⟨.none, names⟩)).isOk = true)
    (hlisted : ∀ names ∈ [] :: tree.directoriesBelow place,
      tree.unreadable.contains (place ++ names) = false ∧ names.length < Fault.callDepth) :
    Open tree directory := by
  -- The directory itself counts as one of those below it.
  have hdirectory : ∀ names, tree.isDirectoryAt (place ++ names) = true →
      names ∈ [] :: tree.directoriesBelow place := by
    intro names hnames
    by_cases hne : names = []
    · exact hne ▸ List.mem_cons_self
    · exact List.mem_cons_of_mem _ ((FileTree.mem_directoriesBelow_iff hne).2 hnames)
  -- Each condition is read off the list of what lies below.
  constructor
  case self =>
    intro obstacle h
    rw [hplace] at h
    cases h
  case below =>
    intro place' names obstacle hplace' hnames h
    rw [hplace, Except.ok.injEq] at hplace'
    subst hplace'
    have hmem : names ∈ [] :: tree.directoriesBelow place ++ tree.filesBelow place := by
      by_cases hne : names = []
      · exact hne ▸ List.mem_cons_self
      · rcases hnames with hnames | hnames
        · exact List.mem_append_left _ (hdirectory names hnames)
        · exact List.mem_append_right _ (FileTree.mem_filesBelow_iff.2 ⟨hne, hnames⟩)
    have hok := hbelow names hmem
    rw [h] at hok
    cases hok
  case listed =>
    intro place' names hplace' hnames
    rw [hplace, Except.ok.injEq] at hplace'
    subst hplace'
    exact (hlisted names (hdirectory names hnames)).1
  case shallow =>
    intro place' names hplace' hnames
    rw [hplace, Except.ok.injEq] at hplace'
    subst hplace'
    exact (hlisted names (hdirectory names hnames)).2

/-- Where nothing hinders it, everything below a directory is found under its path. -/
private theorem Open.resolve_under (h : Open tree directory) (htree : tree.Proper)
    (hplace : tree.resolve directory = .ok place) {names : List String}
    (hnames : tree.Occupied (place ++ names)) :
    tree.resolve (directory.under ⟨.none, names⟩) = .ok (place ++ names) := by
  refine (htree.resolve_under hplace hnames).resolve_right ?_
  rintro ⟨obstacle, hresolve, hhides⟩
  rw [h.below hplace hnames hresolve] at hhides
  cases hhides

/-- Where nothing hinders it, all files are found. -/
private theorem Open.mem_found (h : Open tree directory) (htree : tree.Proper)
    (hplace : tree.resolve directory = .ok place) {names : List String}
    (hnames : names ∈ tree.filesBelow place) : names ∈ tree.found directory place := by
  -- Every directory on the way to the file is one that can be listed.
  refine List.mem_filter.2 ⟨List.mem_append_right _ hnames, List.all_eq_true.2 fun way hway => ?_⟩
  obtain ⟨rest, hrest, rfl⟩ := FileTree.mem_beginnings_iff.1 hway
  have hfile : tree.Occupied (place ++ way ++ rest) :=
    .inr (by simpa using (FileTree.mem_filesBelow_iff.1 hnames).2)
  have hdirectory := hfile.isDirectoryAt hrest
  rw [FileTree.lists, h.listed hplace hdirectory, h.resolve_under htree hplace (.inl hdirectory)]
  rfl

/-- The names lead to a file if there is one at the end of them. -/
private theorem exists_file_of_leadsToFile {names : List String}
    (h : leadsToFile tree directory names = true) :
    tree.HasFile (directory.under ⟨.none, names⟩) := by
  unfold leadsToFile FileTree.isFile FileTree.holds at h
  -- A path that leads nowhere leads to no file.
  cases hresolve : tree.resolve (directory.under ⟨.none, names⟩) with
  | ok place =>
    rw [hresolve] at h
    exact ⟨place, hresolve, h⟩
  | error obstacle =>
    rw [hresolve] at h
    cases hhides : obstacle.hides <;> simp [hhides] at h

/-- A path that leads to a file is one that leads to a file. -/
private theorem leadsToFile_of_resolve {names : List String}
    (hresolve : tree.resolve (directory.under ⟨.none, names⟩) = .ok place)
    (hfile : (tree.file? place).isSome) : leadsToFile tree directory names = true := by
  simp only [leadsToFile, FileTree.isFile, FileTree.holds, hresolve, hfile]

/-- Where nothing hinders it, a listing does not end with a fault. -/
private theorem Open.not_unlisted (h : Open tree directory) (htree : tree.Proper) (f : Fault) :
    ¬Unlisted tree directory f := by
  intro hunlisted
  -- Each way of failing to list is one that an open directory excludes.
  cases hunlisted with
  | self hresolve hhides =>
    rw [h.self hresolve] at hhides
    cases hhides
  | below hplace hnames hresolve hhides =>
    rw [h.below hplace (FileTree.occupied_of_mem_found hnames).2 hresolve] at hhides
    cases hhides
  | @deep place names hplace hnames hfile hdeep =>
    obtain ⟨-, hoccupied⟩ := FileTree.occupied_of_mem_found hnames
    rcases hoccupied with hdirectory | hsome
    · exact absurd (h.shallow hplace hdirectory) (Nat.not_lt.2 hdeep)
    · -- A file is seen to be one.
      have hleads := leadsToFile_of_resolve (h.resolve_under htree hplace (.inr hsome)) hsome
      simp only [leadsToFile, hfile] at hleads
      cases hleads

/-- The path of a Markdown file at any depth below a directory. -/
structure Document (tree : FileTree) (directory path : Path) : Prop where
  below : ∃ names, names ≠ [] ∧ ".." ∉ names ∧ path = directory.under ⟨.none, names⟩
  file : tree.HasFile path
  not_directory : ¬tree.HasDirectory path
  name : Path.MarkdownName path.name

/-- What is listed are documents below the directory, each of them once. -/
private theorem document_of_mem (htree : tree.Proper) {path : Path}
    (h : path ∈ documents tree directory place) : Document tree directory path := by
  rw [documents, List.mem_mergeSort, List.mem_filter, List.mem_map] at h
  obtain ⟨⟨names, hnames, rfl⟩, hmarkdown⟩ := h
  obtain ⟨hfound, hleads⟩ := List.mem_filter.1 hnames
  obtain ⟨hne, hoccupied⟩ := FileTree.occupied_of_mem_found hfound
  have hfile := exists_file_of_leadsToFile hleads
  refine ⟨⟨names, hne, fun hup => ?_, rfl⟩, hfile, htree.not_hasDirectory hfile,
    Path.isMarkdown_iff.1 hmarkdown⟩
  exact (htree.named_of_occupied hoccupied _ (List.mem_append_right _ hup)).1 rfl

/-- Where nothing hinders it, every document is listed. -/
private theorem Open.mem_documents (h : Open tree directory) (htree : tree.Proper)
    (hplace : tree.resolve directory = .ok place) {path : Path}
    (hdocument : Document tree directory path) : path ∈ documents tree directory place := by
  obtain ⟨⟨names, hne, hup, rfl⟩, ⟨place', hplace', hfile⟩, -, hname⟩ := hdocument
  have hleads := leadsToFile_of_resolve hplace' hfile
  rw [FileTree.resolve_under_eq_ok hplace hup hplace'] at hfile
  -- What is listed contains every file below, and the filters keep it.
  have hfound := h.mem_found htree hplace (FileTree.mem_filesBelow_iff.2 ⟨hne, hfile⟩)
  rw [documents, List.mem_mergeSort, List.mem_filter, List.mem_map]
  exact ⟨⟨names, List.mem_filter.2 ⟨hfound, hleads⟩, rfl⟩, Path.isMarkdown_iff.2 hname⟩

/-- Paths in order are in strict order if none is listed twice. -/
private theorem pairwise_names_of_inOrder (directory : Path) {paths : List Path}
    (h : InOrder paths) (hnodup : paths.Nodup) (hroot : ∀ p ∈ paths, p.root = directory.root) :
    paths.Pairwise fun p q => p.names < q.names := by
  -- The names decide the order, since all paths start at one root.
  refine (List.Pairwise.and h hnodup).imp_of_mem fun {p q} hp hq hpq => ?_
  have hsame : p.root = q.root := (hroot p hp).trans (hroot q hq).symm
  have hne : p.names ≠ q.names := by
    intro heq
    apply hpq.2
    rw [Path.mk.injEq]
    exact ⟨hsame, heq⟩
  refine (lt_or_gt_of_ne hne).resolve_right fun hlt => ?_
  have hnot := hpq.1
  rw [(Path.before_iff hsame.symm).2 hlt] at hnot
  cases hnot

/-- The files among what is found are found once. -/
private theorem nodup_files (htree : tree.Proper) (hplace : tree.resolve directory = .ok place) :
    ((tree.found directory place).filter (leadsToFile tree directory)).Nodup := by
  have hnone : (((tree.directoriesBelow place).filter (· ≠ [])).filter
      (tree.finds directory place)).filter (leadsToFile tree directory) = [] := by
    rw [List.filter_eq_nil_iff]
    intro names hnames hleads
    obtain ⟨hmem, hne⟩ := List.mem_filter.1 (List.mem_filter.1 hnames).1
    rw [decide_eq_true_eq] at hne
    have hdirectory := (FileTree.mem_directoriesBelow_iff hne).1 hmem
    have hup : ".." ∉ names := fun hup =>
      (htree.named_of_occupied (.inl hdirectory) _ (List.mem_append_right _ hup)).1 rfl
    -- What is a directory is no file.
    obtain ⟨place', hplace', hfile⟩ := exists_file_of_leadsToFile hleads
    obtain rfl := FileTree.resolve_under_eq_ok hplace hup hplace'
    exact htree.not_hasDirectory ⟨_, hplace', hfile⟩ ⟨_, hplace', hdirectory⟩
  rw [FileTree.found, List.filter_append, List.filter_append, hnone, List.nil_append]
  exact ((htree.nodup_filesBelow place).filter _).filter _

/-- Documents are listed in the order of their names. -/
private theorem pairwise_documents (htree : tree.Proper)
    (hplace : tree.resolve directory = .ok place) :
    (documents tree directory place).Pairwise fun p q => p.names < q.names := by
  -- No path is listed twice, since no file is found twice.
  have hnodup := (nodup_files htree hplace).map (Path.under_injective directory)
  refine pairwise_names_of_inOrder directory (inOrder_mergeSort _)
    (List.nodup_mergeSort.2 (hnodup.filter _)) fun p hp => ?_
  rw [documents, List.mem_mergeSort, List.mem_filter, List.mem_map] at hp
  obtain ⟨⟨names, -, rfl⟩, -⟩ := hp
  rfl

/-- The result says that the directory is none, or lists the documents below it: all of them and
    nothing else, in strict order of the names on the way. -/
structure Lists (tree : FileTree) (directory : Path) (result : Except Failure (List Path)) :
    Prop where
  error_iff : FailsIn .run result ↔ ¬tree.HasDirectory directory
  error (h : ¬tree.HasDirectory directory) : result = .error (.of (.notADirectory directory))
  ok (h : tree.HasDirectory directory) : ∃ paths, result = .ok paths ∧
    paths.Pairwise (fun p q => p.names < q.names) ∧
    ∀ path, path ∈ paths ↔ Document tree directory path

/-- A directory is listed completely, every document once and in order, and what is no directory is
    an error, unless something hinders it.  Whatever hinders a listing, nothing but documents is
    listed, once and in order, what is no directory is never listed, and there is no other failure
    than a fault. -/
theorem lists_listing (htree : tree.Proper) :
    (Open tree directory → Lists tree directory (listing tree directory)) ∧
      match listing tree directory with
      | .ok paths => tree.HasDirectory directory ∧ paths.Pairwise (fun p q => p.names < q.names) ∧
          ∀ path ∈ paths, Document tree directory path
      | .error e => e = .of (.notADirectory directory) ∧ ¬tree.HasDirectory directory ∨
          ∃ f, e = .fault f ∧ Unlisted tree directory f := by
  rcases listing_cases tree directory with
    ⟨place, hplace, hdirectory, hlisting⟩ | ⟨hnone, hlisting⟩ | ⟨f, hlisting, hunlisted⟩
  · have hhas : tree.HasDirectory directory := ⟨place, hplace, hdirectory⟩
    have hmem : ∀ path ∈ documents tree directory place, Document tree directory path :=
      fun path => document_of_mem htree
    rw [hlisting]
    -- An open directory rules out the faults, so the list is the whole one.
    refine ⟨fun hopen => ⟨⟨fun hfails => absurd hfails not_failsIn_ok, fun h => absurd hhas h⟩,
      fun h => absurd hhas h, fun _ => ⟨_, rfl, pairwise_documents htree hplace, fun path => ?_⟩⟩,
      hhas, pairwise_documents htree hplace, hmem⟩
    exact ⟨hmem path, hopen.mem_documents htree hplace⟩
  · rw [hlisting]
    refine ⟨fun _ => ⟨⟨fun _ => hnone, fun _ => ?_⟩, fun _ => rfl, fun h => absurd h hnone⟩,
      .inl ⟨rfl, hnone⟩⟩
    rw [failsIn_of_iff]
    rfl
  · rw [hlisting]
    exact ⟨fun hopen => absurd hunlisted (hopen.not_unlisted htree f), .inr ⟨f, rfl, hunlisted⟩⟩

/-- Documents in directories, one of them with a name like that of a document, and a file whose name
    is nothing but a suffix. -/
def sampleTree : FileTree :=
  { files := [(["docs", "b-c.md"], .empty), (["docs", "b", "z.Markdown"], .empty),
      (["docs", "x.md", "y.md"], .empty), (["docs", ".md"], .empty), (["a.md"], .empty)] }

/-- In the sample the documents are found, and nothing else. -/
theorem lists_listing_sampleTree :
    sampleTree.Proper ∧ Open sampleTree ⟨.none, ["docs"]⟩ ∧
      Lists sampleTree ⟨.none, ["docs"]⟩ (listing sampleTree ⟨.none, ["docs"]⟩) ∧
      sampleTree.HasDirectory ⟨.none, ["docs"]⟩ ∧
      Document sampleTree ⟨.none, ["docs"]⟩ ⟨.none, ["docs", "b", "z.Markdown"]⟩ := by
  have hproper : sampleTree.Proper := by decide
  have hplace : sampleTree.resolve ⟨.none, ["docs"]⟩ = .ok ["docs"] := by decide
  -- Nothing below the sample directory is closed or too deep.
  have hopen : Open sampleTree ⟨.none, ["docs"]⟩ :=
    open_of_forall hplace (by decide) (by decide)
  have hfile : sampleTree.HasFile ⟨.none, ["docs", "b", "z.Markdown"]⟩ :=
    ⟨["docs", "b", "z.Markdown"], by decide, by decide⟩
  have hends : Path.EndsWith "z.Markdown".toList ['z'] "Markdown".toList := by
    constructor <;> decide
  exact ⟨hproper, hopen, (lists_listing hproper).1 hopen, ⟨_, hplace, by decide⟩,
    ⟨["b", "z.Markdown"], by decide, by decide, rfl⟩, hfile, hproper.not_hasDirectory hfile,
    _, _, hends, by decide⟩

/-- A name that no system takes. -/
def longName : String := String.ofList (List.replicate 300 'a')

/-- A name of 300 characters cannot be looked up. -/
private theorem resolve_longName : FileTree.resolve {} ⟨.none, [longName]⟩ =
    .error .nameTooLong := by
  -- The name is longer than a name may be, but the path is not too long.
  have hsize : longName.utf8ByteSize = 300 := by decide +kernel
  have htext : (⟨.none, [longName]⟩ : Path).text = longName := by simp [Path.text, Path.Root.text]
  have hchars : longName.toList = List.replicate 300 'a' := String.toList_ofList
  have hnul : '\x00' ∉ (⟨.none, [longName]⟩ : Path).text.toList := by
    intro hmem
    rw [htext, hchars] at hmem
    exact absurd (List.eq_of_mem_replicate hmem) (by decide)
  have hup : longName ≠ ".." := by
    intro h
    have hdots := congrArg String.utf8ByteSize h
    -- The size of the name tells it apart from the parent.
    rw [hsize] at hdots
    exact absurd hdots (by decide)
  have hroot : FileTree.isDirectoryAt {} [] = true := rfl
  have hsearch : ¬([] : List Place).contains [] = true := by decide
  have hlong : FileTree.nameLimit < longName.utf8ByteSize := by
    rw [hsize, FileTree.nameLimit]
    omega
  rw [FileTree.resolve_eq_walk hnul (by rw [htext, hsize, FileTree.pathLimit]; omega)]
  show FileTree.walk {} [] [longName] = _
  rw [FileTree.walk, if_pos hroot, if_neg hsearch, if_neg hup, if_pos hlong]

/-- A path with a name that is too long is no directory, and the listing does not say so. -/
theorem listing_of_long_name :
    ¬FileTree.HasDirectory {} ⟨.none, [longName]⟩ ∧
      ¬FailsIn .run (listing {} ⟨.none, [longName]⟩) := by
  constructor
  · rintro ⟨place, hplace, -⟩
    rw [resolve_longName] at hplace
    cases hplace
  -- The system refuses the name, and this refusal is not an error of the program.
  · have hlisting : listing {} ⟨.none, [longName]⟩ = .error (.fault ⟨.operatingSystem,
        FileTree.Obstacle.nameTooLong.report ⟨.none, [longName]⟩⟩) := by
      rw [listing, FileTree.isDirectory, FileTree.holds, resolve_longName]
      rfl
    rw [hlisting]
    exact not_failsIn_fault

end Run

end Transclude
