import Transclude.FileTree

/-!
# Writing into a file tree

Which files there are and where is the `outline` of a tree.  What a path leads to
depends on the outline alone (`resolve_outline`), and writing a file that is there
keeps it (`outline_withFile`).  So the file that is written is the one that is read
under the same path, and no other file changes (`file?_withFile`).

Writing has three ends (`write_cases`): the file is not even opened, and nothing has
happened; or all bytes are written; or it breaks off, and then the file holds the
beginning of what was to be written, whatever was there before.
-/

namespace Transclude.FileTree

variable {t t' : FileTree} {place : Place} {path : Path} {data : ByteArray}

/-! ## Putting -/

/-- What has been put at a place is found there, and elsewhere what was there before. -/
theorem lookup_put (place other : Place) (data : ByteArray) (files : List (Place × ByteArray)) :
    (put place data files).lookup other =
      if other = place then some data else files.lookup other := by
  induction files with
  -- In an empty tree the file is the only one.
  | nil =>
    by_cases hother : other = place
    · simp [put, hother]
    · have hne : (other == place) = false := by simpa using hother
      simp [put, hother, List.lookup_cons, hne]
  | cons file files ih =>
    obtain ⟨p, d⟩ := file
    unfold put
    by_cases hp : p = place
    · -- The file itself: it is replaced.
      rw [if_pos hp, hp, List.lookup_cons, List.lookup_cons]
      by_cases hother : other = place
      · simp [hother]
      · have hne : (other == place) = false := by simpa using hother
        simp [hother, hne]
    · rw [if_neg hp, List.lookup_cons, List.lookup_cons, ih]
      cases hother : other == p with
      | false => rfl
      | true =>
        have hne : other ≠ place := by rw [beq_iff_eq.1 hother]; exact hp
        simp [hne]

/-- Where something is found already, nothing is added. -/
theorem map_fst_put {files : List (Place × ByteArray)} (h : (files.lookup place).isSome) :
    (put place data files).map Prod.fst = files.map Prod.fst := by
  induction files with
  | nil => simp at h
  | cons file files ih =>
    obtain ⟨p, d⟩ := file
    unfold put
    by_cases hp : p = place
    · rw [if_pos hp]
      rfl
    · have hne : (place == p) = false := by simpa using fun he => hp he.symm
      rw [List.lookup_cons, hne] at h
      rw [if_neg hp, List.map_cons, List.map_cons, ih h]

/-- What is put at a place last is what counts. -/
private theorem put_put (place : Place) (data data' : ByteArray)
    (files : List (Place × ByteArray)) :
    put place data' (put place data files) = put place data' files := by
  induction files with
  | nil => simp [put]
  | cons file files ih =>
    obtain ⟨p, d⟩ := file
    by_cases hp : p = place
    · simp [put, hp]
    · simp [put, hp, ih]

/-- Of two files put at one place the second stays. -/
private theorem withFile_withFile (t : FileTree) (place : Place) (data data' : ByteArray) :
    (t.withFile place data).withFile place data' = t.withFile place data' := by
  simp only [withFile, put_put]

/-- Only at the place that a file is put at another one is found. -/
theorem file?_withFile (t : FileTree) (place other : Place) (data : ByteArray) :
    (t.withFile place data).file? other = if other = place then some data else t.file? other :=
  lookup_put place other data t.files

/-! ## Outlines -/

/-- The tree with all of its files emptied. -/
def outline (t : FileTree) : FileTree :=
  { t with files := t.files.map fun (place, _) => (place, ByteArray.empty) }

/-- Putting a file where one is does not change the outline. -/
theorem outline_withFile (h : (t.file? place).isSome) :
    (t.withFile place data).outline = t.outline := by
  have hplaces := @map_fst_put place data t.files h
  have hfiles : (put place data t.files).map (fun (p, _) => (p, ByteArray.empty)) =
      t.files.map fun (p, _) => (p, ByteArray.empty) := by
    have hmap := congrArg (List.map fun p : Place => (p, ByteArray.empty)) hplaces
    simpa only [List.map_map, Function.comp_def] using hmap
  simp only [outline, withFile, hfiles]

/-- The outline has files where the tree has. -/
private theorem isSome_file?_outline (t : FileTree) (place : Place) :
    (t.outline.file? place).isSome = (t.file? place).isSome := by
  unfold file? outline
  induction t.files with
  | nil => rfl
  | cons file files ih =>
    rw [List.map_cons, List.lookup_cons, List.lookup_cons]
    cases place == file.1 with
    | true => rfl
    | false => exact ih

/-- The outline has directories where the tree has. -/
private theorem isDirectoryAt_outline (t : FileTree) (place : Place) :
    t.outline.isDirectoryAt place = t.isDirectoryAt place := by
  simp [isDirectoryAt, outline, List.any_map, Function.comp_def]

/-- The ways through the outline are those through the tree. -/
private theorem walk_outline (t : FileTree) (place : Place) (names : List String) :
    t.outline.walk place names = t.walk place names := by
  induction names generalizing place with
  | nil => rfl
  | cons name names ih =>
    have hsearch : t.outline.unsearchable = t.unsearchable := rfl
    simp only [walk, isDirectoryAt_outline, isSome_file?_outline, hsearch, ih]

/-- The content of the files makes no difference to paths. -/
theorem resolve_outline (t : FileTree) (path : Path) : t.outline.resolve path = t.resolve path := by
  unfold resolve
  rw [walk_outline]
  rfl

/-- Where a path leads does not depend on what files hold. -/
theorem resolve_congr (h : t'.outline = t.outline) (path : Path) :
    t'.resolve path = t.resolve path := by
  rw [← resolve_outline, h, resolve_outline]

/-- Where files are does not depend on what they hold. -/
theorem isSome_file?_congr (h : t'.outline = t.outline) (place : Place) :
    (t'.file? place).isSome = (t.file? place).isSome := by
  rw [← isSome_file?_outline, h, isSome_file?_outline]

/-- Where directories are does not depend on what files hold. -/
private theorem isDirectoryAt_congr (h : t'.outline = t.outline) (place : Place) :
    t'.isDirectoryAt place = t.isDirectoryAt place := by
  rw [← isDirectoryAt_outline, h, isDirectoryAt_outline]

/-- What may not be read does not depend on what files hold. -/
theorem unreadable_congr (h : t'.outline = t.outline) : t'.unreadable = t.unreadable := by
  have hunreadable : t'.outline.unreadable = t.outline.unreadable := congrArg FileTree.unreadable h
  exact hunreadable

/-- What a path leads to does not depend on what files hold. -/
private theorem holds_congr (h : t'.outline = t.outline) {kind kind' : Place → Bool}
    (hkind : kind' = kind)
    (path : Path) : t'.holds path kind' = t.holds path kind := by
  rw [holds, holds, resolve_congr h, hkind]

/-- Whether a path is a directory does not depend on what files hold. -/
theorem isDirectory_congr (h : t'.outline = t.outline) (path : Path) :
    t'.isDirectory path = t.isDirectory path :=
  holds_congr h (funext (isDirectoryAt_congr h)) path

/-- Whether a path is a file does not depend on what files hold. -/
theorem isFile_congr (h : t'.outline = t.outline) (path : Path) : t'.isFile path = t.isFile path :=
  holds_congr h (funext (isSome_file?_congr h)) path

/-- What a listing finds does not depend on what the files hold. -/
private theorem found_outline (t : FileTree) (directory : Path) (place : Place) :
    t.outline.found directory place = t.found directory place := by
  have hfiles : t.outline.filesBelow place = t.filesBelow place := by
    simp only [filesBelow, outline, List.filterMap_map, Function.comp_def]
  -- Below a place, names matter and contents do not.
  have hdirectories : t.outline.directoriesBelow place = t.directoriesBelow place := by
    rw [directoriesBelow, directoriesBelow, hfiles]
    rfl
  have hlists : t.outline.lists directory place = t.lists directory place := by
    funext names
    rw [lists, lists, resolve_outline]
    rfl
  have hfinds : t.outline.finds directory place = t.finds directory place := by
    funext names
    rw [finds, finds, hlists]
  rw [found, found, hdirectories, hfiles, hfinds]

/-- What is found below a directory does not depend on what files hold. -/
theorem found_congr (h : t'.outline = t.outline) (directory : Path) (place : Place) :
    t'.found directory place = t.found directory place := by
  rw [← found_outline, h, found_outline]

/-! ## Reading and writing -/

/-- What is read stands in a file at the place that the path leads to, and that file may be read. -/
theorem read_eq_ok_iff : t.read path = .ok data ↔
    ∃ place, t.resolve path = .ok place ∧ t.unreadable.contains place = false ∧
      t.file? place = some data := by
  unfold read
  cases hplace : t.resolve path with
  | error obstacle =>
    constructor
    · intro h
      cases h
    · rintro ⟨_, h, -⟩
      cases h
  | ok place =>
    simp only [bind, Except.bind, Except.ok.injEq, exists_eq_left']
    cases t.unreadable.contains place with
    | true => simp
    | false =>
      cases hfile : t.file? place with
      | some found => simp
      | none =>
        -- There is no file, whatever else there is.
        simp only [Bool.false_eq_true, if_false]
        split <;> simp

/-- What is read stands in a file. -/
theorem exists_of_read_eq_ok (h : t.read path = .ok data) :
    ∃ place, t.resolve path = .ok place ∧ t.file? place = some data := by
  obtain ⟨place, hplace, -, hfile⟩ := read_eq_ok_iff.1 h
  exact ⟨place, hplace, hfile⟩

/-- What a path gives depends on the outline and on the file that it leads to. -/
theorem read_congr (h : t'.outline = t.outline)
    (hfile : ∀ place, t.resolve path = .ok place → t'.file? place = t.file? place) :
    t'.read path = t.read path := by
  unfold read
  rw [resolve_congr h, unreadable_congr h]
  cases hplace : t.resolve path with
  | error obstacle => rfl
  | ok place => simp only [bind, Except.bind, hfile place hplace, isDirectoryAt_congr h]

/-- Where nothing can be read, nothing can be read later either. -/
theorem read_eq_error_congr (h : t'.outline = t.outline) {obstacle : Obstacle}
    (hread : t.read path = .error obstacle) : t'.read path = .error obstacle := by
  rw [← hread]
  unfold read at hread ⊢
  rw [resolve_congr h, unreadable_congr h]
  -- What hinders reading is in the outline, up to the file itself.
  cases hplace : t.resolve path with
  | error obstacle => rfl
  | ok place =>
    simp only [hplace, bind, Except.bind] at hread ⊢
    rw [isDirectoryAt_congr h]
    cases hmay : t.unreadable.contains place with
    | true => rfl
    | false =>
      rw [hmay] at hread
      cases hfile : t.file? place with
      | some data =>
        rw [hfile] at hread
        cases hread
      -- A file that is not there is in neither tree.
      | none =>
        have hnone := isSome_file?_congr h place
        rw [hfile, Option.isSome_none, Option.isSome_eq_false_iff,
          Option.isNone_iff_eq_none] at hnone
        rw [hnone]

/-- Whether a file can be written does not depend on what files hold. -/
theorem openToWrite_congr (h : t'.outline = t.outline) (path : Path) :
    t'.openToWrite path = t.openToWrite path := by
  have hreadOnly : t'.outline.readOnly = t.outline.readOnly := congrArg FileTree.readOnly h
  replace hreadOnly : t'.readOnly = t.readOnly := hreadOnly
  have hnone : ∀ place, (t'.file? place).isNone = (t.file? place).isNone := fun place => by
    rw [← Option.not_isSome, ← Option.not_isSome, isSome_file?_congr h]
  simp only [openToWrite, resolve_congr h, isDirectoryAt_congr h, hreadOnly, hnone]

/-- A file that is opened is at the place that the path leads to. -/
theorem resolve_of_openToWrite (h : t.openToWrite path = .ok place) :
    t.resolve path = .ok place := by
  unfold openToWrite at h
  cases hplace : t.resolve path with
  | error obstacle => rw [hplace] at h; cases h
  | ok place' =>
    simp only [hplace, bind, Except.bind] at h
    split at h
    · cases h
    · split at h
      · cases h
      · split at h
        · cases h
        · exact h

/-- No more is written than there is. -/
private theorem fitting_le (t : FileTree) (place : Place) (data : ByteArray) :
    t.fitting place data ≤ data.size := by
  unfold fitting
  split
  · exact Nat.min_le_right _ _
  · exact Nat.le_refl _

private theorem get_bind {α : Type} (f : FileTree → EStateM Obstacle FileTree α) :
    (get >>= f) t = f t t := rfl

private theorem modify_bind {α : Type} (g : FileTree → FileTree)
    (f : PUnit → EStateM Obstacle FileTree α) : (modify g >>= f) t = f ⟨⟩ (g t) := rfl

/-- A file that cannot be opened stays as it is. -/
private theorem write_of_openToWrite_eq_error {obstacle : Obstacle}
    (hopen : t.openToWrite path = .error obstacle) : write path data t = .error obstacle t := by
  rw [write, get_bind, hopen]
  rfl

/-- The data goes into the emptied file, as far as there is room. -/
private theorem write_of_openToWrite_eq_ok (hopen : t.openToWrite path = .ok place) :
    write path data t =
      if t.fitting place data < data.size then
        .error .noRoom (t.withFile place (data.extract 0 (t.fitting place data)))
      else .ok () (t.withFile place (data.extract 0 (t.fitting place data))) := by
  have hfitting : (t.withFile place .empty).fitting place data = t.fitting place data := rfl
  rw [write, get_bind, hopen]
  dsimp only
  rw [modify_bind, get_bind, modify_bind, withFile_withFile, hfitting]
  split <;> rfl

/-- How writing ends. -/
theorem write_cases (path : Path) (data : ByteArray) (t : FileTree) :
    (∃ obstacle, t.openToWrite path = .error obstacle ∧ write path data t = .error obstacle t) ∨
      ∃ place, t.openToWrite path = .ok place ∧
        ((t.fitting place data < data.size ∧ write path data t =
            .error .noRoom (t.withFile place (data.extract 0 (t.fitting place data)))) ∨
          write path data t = .ok () (t.withFile place data)) := by
  cases hopen : t.openToWrite path with
  | error obstacle => exact .inl ⟨obstacle, rfl, write_of_openToWrite_eq_error hopen⟩
  | ok place =>
    refine .inr ⟨place, rfl, ?_⟩
    rw [write_of_openToWrite_eq_ok hopen]
    by_cases hroom : t.fitting place data < data.size
    · exact .inl ⟨hroom, if_pos hroom⟩
    · -- There is room for everything, and all of the data is the data.
      have hall : data.extract 0 (t.fitting place data) = data := by
        rw [Nat.le_antisymm (fitting_le t place data) (Nat.not_lt.1 hroom)]
        exact ByteArray.extract_zero_size
      exact .inr (by rw [if_neg hroom, hall])

end Transclude.FileTree
