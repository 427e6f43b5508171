import Mathlib.Data.List.Nodup
import Transclude.Proofs.FileTree

/-!
# Below a directory

What is below a directory is found under the path of the directory with the names on the
way behind it (`Proper.resolve_under`), unless a name or the path is too long or a directory
on the way may not be searched; and such a path leads nowhere else (`resolve_under_eq_ok`).
So what is below a place (`mem_filesBelow_iff`, `mem_directoriesBelow_iff`) is what can be
found below it.

Trees may be written down that no file system has: `Proper` are those in which every file
has a place of its own.
-/

namespace Transclude

/-! ## The text of a path -/

/-- A character that does not separate parts stands in one of them. -/
theorem mem_intercalate_iff {c : Char} {sep : List Char} (hc : c ∉ sep) (parts : List (List Char)) :
    c ∈ sep.intercalate parts ↔ ∃ part ∈ parts, c ∈ part := by
  induction parts with
  | nil => simp
  | cons part parts ih =>
    cases parts with
    | nil => simp
    | cons second parts =>
      rw [List.intercalate_cons_cons, List.mem_append, List.mem_append, ih]
      simp [hc]

/-- A path holds a NUL in its names or not at all. -/
theorem Path.nul_mem_text_iff (path : Path) :
    '\x00' ∈ path.text.toList ↔ ∃ name ∈ path.names, '\x00' ∈ name.toList := by
  have hroot : '\x00' ∉ path.root.text.toList := by cases path.root <;> decide
  unfold Path.text
  split
  · rename_i h
    have hnames : path.names = [] := by
      simp only [Bool.and_eq_true, List.isEmpty_iff] at h
      exact h.2
    rw [hnames]
    simp
  · rw [String.toList_append, List.mem_append, String.toList_intercalate,
      mem_intercalate_iff (by decide)]
    simp [hroot]

namespace FileTree

variable {t : FileTree} {place place' : Place} {names : List String} {path : Path}

/-! ## What paths lead to -/

/-- The path leads to a file. -/
def HasFile (t : FileTree) (path : Path) : Prop :=
  ∃ place, t.resolve path = .ok place ∧ (t.file? place).isSome

/-- The path leads to a directory. -/
def HasDirectory (t : FileTree) (path : Path) : Prop :=
  ∃ place, t.resolve path = .ok place ∧ t.isDirectoryAt place = true

/-- What paths are followed from. -/
def origin (t : FileTree) (path : Path) : Place :=
  if path.isAbsolute then [] else t.workingDirectory

/-- A path that is long is not followed. -/
theorem resolve_of_long (hnul : '\x00' ∉ path.text.toList)
    (hlong : pathLimit ≤ path.text.utf8ByteSize) : t.resolve path = .error .nameTooLong := by
  rw [resolve, if_neg (by rwa [List.contains_iff_mem]), if_pos hlong]

/-- A path without a NUL that is not too long leads along its names. -/
theorem resolve_eq_walk (hnul : '\x00' ∉ path.text.toList)
    (hshort : path.text.utf8ByteSize < pathLimit) :
    t.resolve path = t.walk (t.origin path) path.names := by
  rw [resolve, if_neg (by rwa [List.contains_iff_mem]), if_neg (Nat.not_le.2 hshort)]
  rfl

/-- Where a path leads, and that it holds no NUL and is not too long. -/
private theorem resolve_eq_ok_iff : t.resolve path = .ok place ↔
    '\x00' ∉ path.text.toList ∧ path.text.utf8ByteSize < pathLimit ∧
      t.walk (t.origin path) path.names = .ok place := by
  constructor
  · intro h
    -- A path with a NUL is refused first, then one that is too long.
    by_cases hnul : '\x00' ∈ path.text.toList
    · rw [resolve, if_pos (List.contains_iff_mem.2 hnul)] at h
      cases h
    · by_cases hshort : path.text.utf8ByteSize < pathLimit
      · rw [resolve_eq_walk hnul hshort] at h
        exact ⟨hnul, hshort, h⟩
      · rw [resolve_of_long hnul (Nat.le_of_not_lt hshort)] at h
        cases h
  · rintro ⟨hnul, hshort, h⟩
    rw [resolve_eq_walk hnul hshort, h]

/-! ## Walking along names -/

/-- A way can be gone in two parts. -/
private theorem walk_append (t : FileTree) (place : Place) (names more : List String) :
    t.walk place (names ++ more) = t.walk place names >>= fun place' => t.walk place' more := by
  induction names generalizing place with
  | nil => rfl
  | cons name names ih =>
    rw [List.cons_append, walk, walk]
    -- Each name is looked up from where the names before have led.
    split
    · split
      · rfl
      · split
        · exact ih _
        · split
          · rfl
          · exact ih _
    · split <;> rfl

/-- Names that do not go back up are the names on the way. -/
theorem eq_append_of_walk (hup : ".." ∉ names) (h : t.walk place names = .ok place') :
    place' = place ++ names := by
  induction names generalizing place with
  | nil =>
    cases h
    exact (List.append_nil _).symm
  | cons name names ih =>
    rw [List.mem_cons, not_or] at hup
    rw [walk] at h
    split at h
    -- No name goes up, so every step goes one name down.
    · rw [if_neg (Ne.symm hup.1)] at h
      split at h
      · cases h
      · split at h
        · cases h
        · rw [ih hup.2 h, List.append_assoc, List.singleton_append]
    · split at h <;> cases h

/-- There is a file at a place. -/
theorem isSome_file?_iff : (t.file? place).isSome ↔ place ∈ t.files.map Prod.fst := by
  rw [file?, Option.isSome_iff_ne_none, Ne, List.lookup_eq_none_iff]
  simp

/-- A place is a directory if it is the root, one that is listed, or above a file or a listed
    directory. -/
private theorem isDirectoryAt_iff : t.isDirectoryAt place = true ↔
    place = [] ∨ (∃ p ∈ t.workingDirectory :: t.directories, place <+: p) ∨
      ∃ p ∈ t.files.map Prod.fst, place <+: p ∧ p ≠ place := by
  simp only [isDirectoryAt, leadsTo, Bool.or_eq_true, List.isEmpty_iff, List.any_eq_true,
    List.isPrefixOf_iff_prefix, Bool.and_eq_true, decide_eq_true_eq, List.mem_cons, or_and_right,
    exists_or, exists_eq_left, List.mem_map, exists_exists_and_eq_and, or_assoc]

/-- There is something at a place: a directory or a file. -/
def Occupied (t : FileTree) (place : Place) : Prop :=
  t.isDirectoryAt place = true ∨ (t.file? place).isSome

/-- Above whatever is somewhere there are directories. -/
theorem Occupied.isDirectoryAt (h : t.Occupied (place ++ names)) (hne : names ≠ []) :
    t.isDirectoryAt place = true := by
  rw [isDirectoryAt_iff]
  have hnot : ∀ more, place ++ names ++ more ≠ place := by simp [hne]
  rcases h with h | h
  · rcases isDirectoryAt_iff.1 h with h | ⟨p, hp, more, rfl⟩ | ⟨p, hp, ⟨more, rfl⟩, -⟩
    · exact absurd (List.append_eq_nil_iff.1 h).2 hne
    · exact .inr (.inl ⟨_, hp, _, List.append_assoc .. |>.symm⟩)
    · exact .inr (.inr ⟨_, hp, ⟨_, List.append_assoc .. |>.symm⟩, hnot more⟩)
  · exact .inr (.inr ⟨_, isSome_file?_iff.1 h, List.prefix_append _ _, by simpa using hne⟩)

/-- The way to whatever is somewhere, unless something on it is hidden. -/
theorem walk_of_occupied (hup : ".." ∉ names) (h : t.Occupied (place ++ names)) :
    t.walk place names = .ok (place ++ names) ∨
      ∃ obstacle, t.walk place names = .error obstacle ∧ obstacle.hides = true := by
  induction names generalizing place with
  | nil => exact .inl (by rw [walk, List.append_nil])
  | cons name names ih =>
    have hdirectory := h.isDirectoryAt (List.cons_ne_nil name names)
    rw [List.mem_cons, not_or] at hup
    rw [walk, if_pos hdirectory, if_neg (Ne.symm hup.1)]
    split
    -- The name may be too long, or the directory may not be searched.
    · exact .inr ⟨_, rfl, rfl⟩
    · split
      · exact .inr ⟨_, rfl, rfl⟩
      -- Otherwise the step is made, and the rest of the way is occupied too.
      · have happend : place ++ name :: names = place ++ [name] ++ names := by simp
        rw [happend] at h ⊢
        exact ih hup.2 h

/-! ## Proper trees -/

/-- Every file has a place of its own, where no directory is, and the names on the way to files and
    directories are names of files. -/
structure Proper (t : FileTree) : Prop where
  nodup : (t.files.map Prod.fst).Nodup
  apart : ∀ place ∈ t.files.map Prod.fst, t.isDirectoryAt place = false
  named : ∀ place ∈ t.workingDirectory :: t.directories ++ t.files.map Prod.fst, ∀ name ∈ place,
    name ≠ ".." ∧ '\x00' ∉ name.toList

instance (t : FileTree) : Decidable t.Proper :=
  decidable_of_iff
    ((t.files.map Prod.fst).Nodup ∧
      (∀ place ∈ t.files.map Prod.fst, t.isDirectoryAt place = false) ∧
      ∀ place ∈ t.workingDirectory :: t.directories ++ t.files.map Prod.fst, ∀ name ∈ place,
        name ≠ ".." ∧ '\x00' ∉ name.toList)
    ⟨fun h => ⟨h.1, h.2.1, h.2.2⟩, fun h => ⟨h.nodup, h.apart, h.named⟩⟩

/-- What is a file is no directory. -/
theorem Proper.not_hasDirectory (h : t.Proper) (hfile : t.HasFile path) : ¬t.HasDirectory path := by
  rintro ⟨place, hplace, hdirectory⟩
  obtain ⟨place', hplace', hsome⟩ := hfile
  rw [hplace', Except.ok.injEq] at hplace
  subst hplace
  rw [h.apart _ (isSome_file?_iff.1 hsome)] at hdirectory
  cases hdirectory

/-- The names on the way to whatever is somewhere are names of files. -/
theorem Proper.named_of_occupied (h : t.Proper) (hplace : t.Occupied place) :
    ∀ name ∈ place, name ≠ ".." ∧ '\x00' ∉ name.toList := by
  rcases hplace with hplace | hplace
  · rcases isDirectoryAt_iff.1 hplace with rfl | ⟨p, hp, hleads⟩ | ⟨p, hp, hleads, -⟩
    · simp
    · exact fun name hname => h.named p (List.mem_append_left _ hp) name (hleads.subset hname)
    · exact fun name hname => h.named p (List.mem_append_right _ hp) name (hleads.subset hname)
  · exact h.named _ (List.mem_append_right _ (isSome_file?_iff.1 hplace))

/-! ## What is below a place -/

/-- The names on the way down from a place. -/
private theorem wayFrom?_eq_some_iff {below : Place} :
    wayFrom? place below = some names ↔ below = place ++ names ∧ names ≠ [] := by
  unfold wayFrom?
  constructor
  · intro h
    split at h
    · rename_i hbelow
      cases h
      -- A way from the place goes on with at least one name.
      simp only [leadsTo, Bool.and_eq_true, List.isPrefixOf_iff_prefix, decide_eq_true_eq] at hbelow
      obtain ⟨⟨names, rfl⟩, hne⟩ := hbelow
      rw [List.drop_left]
      exact ⟨rfl, by simpa using hne⟩
    · cases h
  · rintro ⟨rfl, hne⟩
    have hbelow : (leadsTo place (place ++ names) && decide (place ++ names ≠ place)) = true := by
      simp [leadsTo, hne]
    rw [if_pos hbelow, List.drop_left]

/-- The names on the way to a file below a place. -/
theorem mem_filesBelow_iff :
    names ∈ t.filesBelow place ↔ names ≠ [] ∧ (t.file? (place ++ names)).isSome := by
  rw [isSome_file?_iff, filesBelow, List.mem_filterMap]
  constructor
  · rintro ⟨⟨p, data⟩, hfile, h⟩
    obtain ⟨rfl, hne⟩ := wayFrom?_eq_some_iff.1 h
    exact ⟨hne, List.mem_map.2 ⟨_, hfile, rfl⟩⟩
  · rintro ⟨hne, hmem⟩
    obtain ⟨⟨p, data⟩, hfile, rfl⟩ := List.mem_map.1 hmem
    exact ⟨_, hfile, wayFrom?_eq_some_iff.2 ⟨rfl, hne⟩⟩

/-- The beginnings of a list of names, without the whole. -/
theorem mem_beginnings_iff {more : List String} :
    names ∈ beginnings more ↔ ∃ rest, rest ≠ [] ∧ more = names ++ rest := by
  induction more generalizing names with
  | nil => simp [beginnings]
  | cons name more ih =>
    rw [beginnings, List.mem_cons, List.mem_map]
    constructor
    -- A beginning is empty, or it starts with the first name.
    · rintro (rfl | ⟨names, hnames, rfl⟩)
      · exact ⟨_, List.cons_ne_nil _ _, rfl⟩
      · obtain ⟨rest, hrest, rfl⟩ := ih.1 hnames
        exact ⟨rest, hrest, rfl⟩
    · rintro ⟨rest, hrest, heq⟩
      cases names with
      | nil => exact .inl rfl
      | cons first names =>
        cases heq
        exact .inr ⟨names, ih.2 ⟨rest, hrest, rfl⟩, rfl⟩

/-- The names on the way to a directory below a place. -/
theorem mem_directoriesBelow_iff (hne : names ≠ []) :
    names ∈ t.directoriesBelow place ↔ t.isDirectoryAt (place ++ names) = true := by
  -- Below the place there is a name, so the root is out of question.
  have hnil : place ++ names ≠ [] := by simp [hne]
  rw [isDirectoryAt_iff, directoriesBelow, List.mem_append]
  simp only [List.mem_flatMap, List.mem_filterMap, wayFrom?_eq_some_iff, List.mem_cons,
    mem_beginnings_iff, hnil, false_or]
  -- A directory is on the way to a listed directory or to a file.
  refine or_congr ⟨?_, ?_⟩ ⟨?_, ?_⟩
  · rintro ⟨way, ⟨p, hp, rfl, -⟩, rfl | ⟨rest, -, rfl⟩⟩
    · exact ⟨_, hp, List.prefix_refl _⟩
    · exact ⟨_, hp, rest, by simp⟩
  · rintro ⟨p, hp, rest, rfl⟩
    refine ⟨names ++ rest, ⟨_, hp, by simp, by simp [hne]⟩, ?_⟩
    by_cases hrest : rest = []
    · exact .inl (by simp [hrest])
    · exact .inr ⟨rest, hrest, rfl⟩
  · rintro ⟨way, hway, rest, hrest, rfl⟩
    obtain ⟨-, hfile⟩ := mem_filesBelow_iff.1 hway
    exact ⟨_, isSome_file?_iff.1 hfile, ⟨rest, by simp⟩, by simpa using hrest⟩
  · rintro ⟨p, hp, ⟨rest, rfl⟩, hrest⟩
    refine ⟨names ++ rest, mem_filesBelow_iff.2 ⟨by simp [hne], isSome_file?_iff.2 ?_⟩, rest, ?_,
      rfl⟩
    · simpa using hp
    · simpa using hrest

/-- In a proper tree there is one way to each file. -/
theorem Proper.nodup_filesBelow (h : t.Proper) (place : Place) : (t.filesBelow place).Nodup := by
  have hmap : t.filesBelow place = (t.files.map Prod.fst).filterMap (wayFrom? place) := by
    rw [filesBelow, List.filterMap_map]
    rfl
  rw [hmap]
  refine List.Nodup.filterMap (fun p p' names hp hp' => ?_) h.nodup
  rw [(wayFrom?_eq_some_iff.1 hp).1, (wayFrom?_eq_some_iff.1 hp').1]

/-- What is below a directory is found under the path of the directory and the names on the way,
    unless something on the way is hidden. -/
theorem Proper.resolve_under (h : t.Proper) (hplace : t.resolve path = .ok place)
    (hnames : t.Occupied (place ++ names)) :
    t.resolve (path.under ⟨.none, names⟩) = .ok (place ++ names) ∨
      ∃ obstacle, t.resolve (path.under ⟨.none, names⟩) = .error obstacle ∧
        obstacle.hides = true := by
  obtain ⟨hnul, -, hwalk⟩ := resolve_eq_ok_iff.1 hplace
  have hnamed := fun name hname => h.named_of_occupied hnames name
    (List.mem_append_right place hname)
  -- No name on the way holds a NUL: those of the path do not, and the others are in the tree.
  have hnul' : '\x00' ∉ (path.under ⟨.none, names⟩).text.toList := by
    rw [Path.nul_mem_text_iff] at hnul ⊢
    rintro ⟨name, hname, hmem⟩
    rcases List.mem_append.1 hname with hname | hname
    · exact hnul ⟨name, hname, hmem⟩
    · exact (hnamed name hname).2 hmem
  by_cases hshort : (path.under ⟨.none, names⟩).text.utf8ByteSize < pathLimit
  -- Both parts of the way are gone one after the other.
  · have hwalk' : t.resolve (path.under ⟨.none, names⟩) = t.walk place names := by
      rw [resolve_eq_walk hnul' hshort]
      show t.walk (t.origin path) (path.names ++ names) = _
      rw [walk_append, hwalk]
      rfl
    rw [hwalk']
    exact walk_of_occupied (fun hup => (hnamed _ hup).1 rfl) hnames
  · exact .inr ⟨_, resolve_of_long hnul' (Nat.not_lt.1 hshort), rfl⟩

/-- Such a path leads nowhere else. -/
theorem resolve_under_eq_ok (hplace : t.resolve path = .ok place) (hup : ".." ∉ names)
    (h : t.resolve (path.under ⟨.none, names⟩) = .ok place') : place' = place ++ names := by
  obtain ⟨-, -, hwalk⟩ := resolve_eq_ok_iff.1 hplace
  obtain ⟨-, -, hwalk'⟩ := resolve_eq_ok_iff.1 h
  have happend : t.walk (t.origin path) (path.names ++ names) = .ok place' := hwalk'
  rw [walk_append, hwalk] at happend
  exact eq_append_of_walk hup happend

/-! ## What is found below a directory -/

/-- What is found is a file or a directory below the place, and not the place itself. -/
theorem occupied_of_mem_found {directory : Path} (h : names ∈ t.found directory place) :
    names ≠ [] ∧ t.Occupied (place ++ names) := by
  rcases List.mem_append.1 (List.mem_filter.1 h).1 with h | h
  · obtain ⟨hmem, hne⟩ := List.mem_filter.1 h
    rw [decide_eq_true_eq] at hne
    exact ⟨hne, .inl ((mem_directoriesBelow_iff hne).1 hmem)⟩
  · obtain ⟨hne, hfile⟩ := mem_filesBelow_iff.1 h
    exact ⟨hne, .inr hfile⟩

end FileTree

end Transclude
