import Transclude.Proofs.GitHub
import Transclude.Proofs.Text.Blank

/-!
# The address of a page

A file has a page on GitHub, whose path has `blob` or `tree` behind the repository, and
an address of its own on the raw host without either.  The way from the one to the other
replaces the first `blob` and then the first `tree` between two slashes, wherever they
stand: for a path written segment by segment that erases one directory of that name
(`filePath_slashed`).  So the page leads to the file if and only if no directory has the
name of the other view, and the address itself is left alone if and only if no directory
has either name and the name of the host stands in no segment (`File.rawUrl_eq_url_iff`).
-/

namespace Transclude.GitHub

/-! ## Paths -/

/-- A part of a path: at least one character, and neither slashes nor blanks. -/
structure IsSegment (s : String) : Prop where
  ne_nil : s.toList ≠ []
  not_slash : ∀ c ∈ s.toList, c ≠ '/'
  not_blank : ∀ c ∈ s.toList, Text.isBlank c = false

instance (s : String) : Decidable (IsSegment s) :=
  decidable_of_iff (s.toList ≠ [] ∧ (s.toList.all fun c => c ≠ '/' && !Text.isBlank c) = true) <| by
    rw [List.all_eq_true]
    simp only [Bool.and_eq_true, decide_eq_true_eq, Bool.not_eq_true']
    exact ⟨fun h => ⟨h.1, fun c hc => (h.2 c hc).1, fun c hc => (h.2 c hc).2⟩,
      fun h => ⟨h.ne_nil, fun c hc => ⟨h.not_slash c hc, h.not_blank c hc⟩⟩⟩

/-- A path with a slash in front of every segment. -/
def slashed (segments : List String) : List Char := segments.flatMap fun s => '/' :: s.toList

@[simp] theorem slashed_nil : slashed [] = [] := rfl

@[simp] theorem slashed_cons (s : String) (segments : List String) :
    slashed (s :: segments) = '/' :: (s.toList ++ slashed segments) := rfl

/-- Segments with slashes in front can be written in two parts. -/
@[simp] theorem slashed_append (segments segments' : List String) :
    slashed (segments ++ segments') = slashed segments ++ slashed segments' := by
  simp [slashed]

/-- Segments start with a slash. -/
private theorem exists_slashed {segments : List String} (h : segments ≠ []) :
    ∃ rest, slashed segments = '/' :: rest := by
  cases segments with
  | nil => exact absurd rfl h
  | cons s segments => exact ⟨_, slashed_cons s segments⟩

/-- A word without slashes stands in front of the segments or in one of them. -/
private theorem infix_append_slashed_iff {word : List Char} (hword : '/' ∉ word)
    {segments : List String} :
    ∀ front : List Char, word <:+: front ++ slashed segments ↔
      word <:+: front ∨ ∃ s ∈ segments, word <:+: s.toList := by
  induction segments with
  | nil => simp
  | cons s segments ih =>
    intro front
    rw [slashed_cons, Text.infix_append_cons_iff hword, ih]
    simp

/-- A word without slashes stands in a path if it stands in one of its segments. -/
theorem infix_slashed_iff {word : List Char} (hword : '/' ∉ word) (hne : word ≠ [])
    {segments : List String} :
    word <:+: slashed segments ↔ ∃ s ∈ segments, word <:+: s.toList := by
  have h := @infix_append_slashed_iff word hword segments []
  simpa [hne] using h

/-- A path is longer than what is left of it when a segment is erased. -/
theorem length_slashed_erase {s : String} {segments : List String} (h : s ∈ segments) :
    (slashed (segments.erase s)).length < (slashed segments).length := by
  have hperm : List.Perm (slashed segments) (slashed (s :: segments.erase s)) :=
    (List.perm_cons_erase h).flatMap_right _
  rw [hperm.length_eq, slashed_cons, List.length_cons, List.length_append]
  omega

/-- Leaving out a segment makes a text no longer. -/
private theorem length_slashed_erase_le (s : String) (segments : List String) :
    (slashed (segments.erase s)).length ≤ (slashed segments).length := by
  by_cases h : s ∈ segments
  · exact Nat.le_of_lt (length_slashed_erase h)
  · exact Nat.le_of_eq (by rw [List.erase_of_not_mem h])

/-- Leaving out a segment changes nothing if it is not there. -/
private theorem slashed_erase_eq_iff {s : String} {segments : List String} :
    slashed (segments.erase s) = slashed segments ↔ s ∉ segments := by
  constructor
  · intro heq h
    exact absurd (congrArg List.length heq) (Nat.ne_of_lt (length_slashed_erase h))
  · intro h
    rw [List.erase_of_not_mem h]

/-- A path from which two names are erased is the same if it has neither. -/
theorem slashed_erase_erase_eq_iff {s t : String} {segments : List String} :
    slashed ((segments.erase s).erase t) = slashed segments ↔ s ∉ segments ∧ t ∉ segments := by
  constructor
  · intro heq
    have hs : s ∉ segments := fun h =>
      absurd (congrArg List.length heq) (Nat.ne_of_lt
        (Nat.lt_of_le_of_lt (length_slashed_erase_le _ _) (length_slashed_erase h)))
    rw [List.erase_of_not_mem hs] at heq
    exact ⟨hs, slashed_erase_eq_iff.1 heq⟩
  · rintro ⟨hs, ht⟩
    rw [List.erase_of_not_mem hs, List.erase_of_not_mem ht]

/-- The name of the host is not found if it stands in no segment. -/
theorem behind?_slashed_eq_none_iff {segments : List String} :
    behind? host (slashed segments) = none ↔ ∀ s ∈ segments, ¬host.toList <:+: s.toList := by
  rw [behind?, Option.map_eq_none_iff, Text.findWord_eq_none_iff,
    infix_slashed_iff (by decide) (by decide)]
  simp

/-- Replacing a word between two slashes erases the first directory of that name. -/
theorem replaceFirst_slashed {word name : String} {directories : List String}
    (hword : IsSegment word) (hdirs : ∀ s ∈ directories, IsSegment s) (hname : IsSegment name) :
    Text.replaceFirst ('/' :: (word.toList ++ ['/'])) ['/'] (slashed (directories ++ [name])) =
      slashed (directories.erase word ++ [name]) := by
  -- The word is replaced where it is a directory, so by induction on the directories.
  induction directories with
  | nil =>
    have hslash : '/' ∉ name.toList := fun h => hname.not_slash _ h rfl
    -- The name alone is no directory: there is no slash behind it.
    have hprefix : ('/' :: (word.toList ++ ['/'])).isPrefixOf ('/' :: name.toList) = false := by
      rw [Bool.eq_false_iff, ne_eq, List.isPrefixOf_iff_prefix]
      intro h
      have hmem : '/' ∈ name.toList := ((List.cons_prefix_cons.1 h).2).subset (by simp)
      exact hslash hmem
    have hrest : Text.replaceFirst ('/' :: (word.toList ++ ['/'])) ['/'] (name.toList ++ []) =
        name.toList := by
      rw [Text.replaceFirst_append hname.not_slash]
      simp [Text.replaceFirst, Text.findWord]
    rw [List.append_nil] at hrest
    simp only [List.nil_append, List.erase_nil, slashed_cons, slashed_nil, List.append_nil]
    rw [Text.replaceFirst_cons hprefix, hrest]
  | cons s directories ih =>
    have hs := hdirs s List.mem_cons_self
    obtain ⟨rest, hrest⟩ : ∃ rest, slashed (directories ++ [name]) = '/' :: rest :=
      exists_slashed (by simp)
    by_cases heq : s = word
    -- The first directory is the word, and it is left out.
    · subst heq
      have hself : Text.replaceFirst ('/' :: (s.toList ++ ['/'])) ['/']
          ('/' :: (s.toList ++ ['/']) ++ rest) = ['/'] ++ rest := Text.replaceFirst_self rest
      rw [List.erase_cons_head, List.cons_append, slashed_cons, hrest]
      simpa using hself
    -- The first directory is another one, so it stays.
    · have hprefix : ('/' :: (word.toList ++ ['/'])).isPrefixOf
          ('/' :: (s.toList ++ '/' :: rest)) = false := by
        rw [Bool.eq_false_iff, ne_eq, List.isPrefixOf_iff_prefix]
        rintro ⟨more, hmore⟩
        -- Both texts go up to the same slash.
        have hsame := Text.append_cons_inj (fun h => hword.not_slash _ h rfl)
          (fun h => hs.not_slash _ h rfl)
          (show word.toList ++ '/' :: more = s.toList ++ '/' :: rest by simpa using hmore)
        exact heq (String.toList_inj.1 hsame.1.symm)
      rw [List.erase_cons_tail (by simpa using heq), List.cons_append,
        List.cons_append, slashed_cons,
        slashed_cons, hrest, Text.replaceFirst_cons hprefix, Text.replaceFirst_append hs.not_slash,
        ← hrest, ih fun t ht => hdirs t (List.mem_cons_of_mem _ ht)]

/-! ## Pages -/

/-- The two kinds of pages: of a file, and of a directory. -/
inductive View where
  | blob
  | tree

namespace View

/-- The word behind the repository in the path of a page. -/
def tag : View → String
  | blob => "blob"
  | tree => "tree"

/-- The other kind. -/
def other : View → View
  | blob => tree
  | tree => blob

/-- What holds of both views holds of every view. -/
private theorem forall_iff {P : View → Prop} : (∀ view, P view) ↔ P blob ∧ P tree :=
  ⟨fun h => ⟨h blob, h tree⟩, fun h view => view.rec h.1 h.2⟩

instance {P : View → Prop} [DecidablePred P] : Decidable (∀ view, P view) :=
  decidable_of_iff _ forall_iff.symm

/-- The tag of a view can be a segment. -/
private theorem isSegment_tag (view : View) : IsSegment view.tag := by
  cases view <;> exact ⟨by decide, Text.forall_mem_of_all (by decide),
    Text.forall_mem_of_all (by decide)⟩

/-- Of the two names, the first is the one in front and the other is erased behind it. -/
theorem erase_erase_cons (view : View) (directories : List String) :
    ((view.tag :: directories).erase blob.tag).erase tree.tag =
    directories.erase view.other.tag := by
  cases view with
  | blob => rw [List.erase_cons_head, other]
  | tree => rw [List.erase_cons_tail (by decide), List.erase_cons_head, other]

end View

/-- A file, or a directory, at a revision of a repository. -/
structure File where
  owner : String
  repository : String
  revision : String
  /-- The directories above it. -/
  directories : List String
  name : String
  isSegment : ∀ s ∈ owner :: repository :: revision :: directories ++ [name], IsSegment s
  owner_ne : ∀ view : View, owner ≠ view.tag
  repository_ne : ∀ view : View, repository ≠ view.tag

/-- How the address of a page may be written. -/
structure Spelling where
  before : List Char
  scheme : String
  finalSlash : Bool
  after : List Char
  before_blank : ∀ c ∈ before, Text.isBlank c = true
  scheme_mem : scheme ∈ ["", "http://", "https://", "www.", "http://www.", "https://www."]
  after_blank : ∀ c ∈ after, Text.isBlank c = true

/-- The address of a page with a given path. -/
def Spelling.write (s : Spelling) (segments : List String) : String :=
  String.ofList (s.before ++ (s.scheme.toList ++ (host.toList ++ slashed segments) ++
    if s.finalSlash then ['/'] else []) ++ s.after)

/-- The address of a file with a given path. -/
def address (segments : List String) : String :=
  String.ofList ("https://".toList ++ (rawHost.toList ++ slashed segments))

namespace File

variable (f : File)

/-- The path on the raw host. -/
def segments : List String := f.owner :: f.repository :: f.revision :: f.directories ++ [f.name]

/-- The path of the page. -/
def page (view : View) : List String :=
  f.owner :: f.repository :: view.tag :: f.revision :: f.directories ++ [f.name]

end File

/-! ## What stands behind the host -/

variable {segments directories : List String} {name : String}

/-- Addresses are the same if their segments are written the same. -/
private theorem address_inj {segments' : List String} :
    address segments = address segments' ↔ slashed segments = slashed segments' := by
  unfold address
  rw [String.ofList_inj, List.append_right_inj, List.append_right_inj]

/-- Segments hold no blanks. -/
private theorem not_blank_of_mem_slashed (h : ∀ s ∈ segments, IsSegment s) :
    ∀ c ∈ slashed segments, Text.isBlank c = false := by
  intro c hc
  obtain ⟨s, hs, hc⟩ := List.mem_flatMap.1 hc
  rcases List.mem_cons.1 hc with rfl | hc
  · decide
  · exact (h s hs).not_blank c hc

/-- One slash is dropped at the end. -/
@[simp] theorem withoutFinalSlash_slash (text : List Char) :
    withoutFinalSlash (text ++ ['/']) = text := by
  simp [withoutFinalSlash]

/-- Behind a name no slash is dropped. -/
private theorem withoutFinalSlash_segment (hname : IsSegment name) (front : List Char) :
    withoutFinalSlash (front ++ slashed (directories ++ [name])) =
      front ++ slashed (directories ++ [name]) := by
  refine if_neg fun hlast => ?_
  have hsplit : front ++ slashed (directories ++ [name]) =
      (front ++ slashed directories ++ ['/']) ++ name.toList := by simp
  rw [hsplit, List.getLast?_append_of_ne_nil _ hname.ne_nil] at hlast
  exact hname.not_slash _ (List.mem_of_getLast? hlast) rfl

/-- In front of the host stand no blanks, and nothing that could be taken for it. -/
theorem Spelling.scheme_char (s : Spelling) :
    ∀ c ∈ s.scheme.toList, Text.isBlank c = false ∧ c ≠ 'g' := by
  have hscheme := s.scheme_mem
  simp only [List.mem_cons, List.not_mem_nil, or_false] at hscheme
  rcases hscheme with h | h | h | h | h | h <;> rw [h] <;> exact Text.forall_mem_of_all (by decide)

/-- However the address of a page is written, its path stands behind the host. -/
theorem behindHost?_write (s : Spelling) (h : ∀ t ∈ directories ++ [name], IsSegment t) :
    behindHost? (s.write (directories ++ [name])) = some (slashed (directories ++ [name])) := by
  have hname : IsSegment name := h name (by simp)
  have hhost : ∀ c ∈ host.toList, Text.isBlank c = false := Text.forall_mem_of_all (by decide)
  -- Nothing of the page is blank, so trimming takes off what is around it only.
  have hpage : ∀ c ∈ s.scheme.toList ++ (host.toList ++ slashed (directories ++ [name])),
      Text.isBlank c = false := by
    intro c hc
    rcases List.mem_append.1 hc with hc | hc
    · exact (s.scheme_char c hc).1
    · exact (List.mem_append.1 hc).elim (hhost c) (not_blank_of_mem_slashed h c)
  have htext : withoutFinalSlash (Text.trim (s.write (directories ++ [name])).toList) =
      s.scheme.toList ++ (host.toList ++ slashed (directories ++ [name])) := by
    rw [Spelling.write, String.toList_ofList, Text.trim_append_append s.before_blank s.after_blank]
    cases s.finalSlash with
    -- One slash at the end is dropped, if there is one.
    | true =>
      rw [if_pos rfl, Text.trim_eq_self, withoutFinalSlash_slash]
      intro c hc
      rcases List.mem_append.1 hc with hc | hc
      · exact hpage c hc
      · rw [List.mem_singleton.1 hc]
        decide
    | false =>
      rw [if_neg Bool.false_ne_true, List.append_nil, Text.trim_eq_self hpage, ← List.append_assoc,
        withoutFinalSlash_segment hname]
  -- Neither the scheme nor what is in front holds the host name.
  have hfind : behind? host (s.scheme.toList ++ (host.toList ++ slashed (directories ++ [name]))) =
      some (slashed (directories ++ [name])) := by
    have hcons : host.toList = 'g' :: "ithub.com".toList := rfl
    rw [behind?, hcons, Text.findWord_append fun c hc => (s.scheme_char c hc).2,
      Text.findWord_self]
    rfl
  rw [behindHost?, htext, hfind, Option.some_or]

/-- In an address on the raw host, the name of the host in a path is taken for the host. -/
theorem behindHost?_address (h : ∀ t ∈ directories ++ [name], IsSegment t) :
    behindHost? (address (directories ++ [name])) =
      (behind? host (slashed (directories ++ [name]))).or
        (some (slashed (directories ++ [name]))) := by
  have hname : IsSegment name := h name (by simp)
  have hfront : ∀ c ∈ "https://".toList ++ rawHost.toList, Text.isBlank c = false :=
    Text.forall_mem_of_all (by decide)
  have hblank : ∀ c ∈ "https://".toList ++ rawHost.toList ++ slashed (directories ++ [name]),
      Text.isBlank c = false :=
    fun c hc => (List.mem_append.1 hc).elim (hfront c) (not_blank_of_mem_slashed h c)
  have htext : withoutFinalSlash (Text.trim (address (directories ++ [name])).toList) =
      "https://".toList ++ (rawHost.toList ++ slashed (directories ++ [name])) := by
    unfold address
    rw [String.toList_ofList, ← List.append_assoc, Text.trim_eq_self hblank,
      withoutFinalSlash_segment hname]
  have hhost : behind? host
    ("https://".toList ++ (rawHost.toList ++ slashed (directories ++ [name]))) =
      behind? host (slashed (directories ++ [name])) := by
    have hcons : host.toList = 'g' :: "ithub.com".toList := rfl
    have hsplit : "https://".toList ++ (rawHost.toList ++ slashed (directories ++ [name])) =
        "https://raw.".toList ++ ('g' :: ("ithubusercontent.com".toList ++
          slashed (directories ++ [name]))) := rfl
    -- The only `g` in the name of the raw host does not start the name of the other.
    rw [behind?, behind?, hcons, hsplit,
      Text.findWord_append (Text.forall_mem_of_all (by decide)), Text.findWord_cons rfl,
      Text.findWord_append (Text.forall_mem_of_all (by decide)), Option.map_map, Option.map_map,
      Option.map_map]
    rfl
  have hraw : behind? rawHost
    ("https://".toList ++ (rawHost.toList ++ slashed (directories ++ [name]))) =
      some (slashed (directories ++ [name])) := by
    have hcons : rawHost.toList = 'r' :: "aw.githubusercontent.com".toList := rfl
    rw [behind?, hcons, Text.findWord_append (Text.forall_mem_of_all (by decide)),
      Text.findWord_self]
    rfl
  rw [behindHost?, htext, hhost, hraw]

/-! ## From the page to the file -/

/-- The path of a file is the path of the page without the first directories `blob` and `tree`. -/
theorem filePath_slashed (h : ∀ t ∈ directories ++ [name], IsSegment t) :
    filePath (slashed (directories ++ [name])) =
      slashed ((directories.erase View.blob.tag).erase View.tree.tag ++ [name]) := by
  have hname : IsSegment name := h name (by simp)
  have hdirs : ∀ t ∈ directories, IsSegment t := fun t ht => h t (by simp [ht])
  have hblob : "/blob/".toList = '/' :: (View.blob.tag.toList ++ ['/']) := rfl
  have htree : "/tree/".toList = '/' :: (View.tree.tag.toList ++ ['/']) := rfl
  rw [filePath, hblob, htree, replaceFirst_slashed View.blob.isSegment_tag hdirs hname,
    replaceFirst_slashed View.tree.isSegment_tag
      (fun t ht => hdirs t (List.mem_of_mem_erase ht)) hname]

namespace File

variable (f : File)

/-- All segments of a page are segments. -/
private theorem isSegment_page (view : View) : ∀ t ∈ f.page view, IsSegment t := by
  have h := f.isSegment
  simp only [page, List.mem_cons, forall_eq_or_imp, List.cons_append] at h ⊢
  exact ⟨h.1, h.2.1, view.isSegment_tag, h.2.2⟩

/-- Leaving out the tag of a view does not touch the owner and the repository. -/
private theorem erase_tag (w : View) (directories : List String) :
    (f.owner :: f.repository :: directories).erase w.tag =
      f.owner :: f.repository :: directories.erase w.tag := by
  rw [List.erase_cons_tail (by simpa using f.owner_ne w),
    List.erase_cons_tail (by simpa using f.repository_ne w)]

/-- A page leads to the address without the first directory that has the name of the other view. -/
theorem rawUrl_page (s : Spelling) (view : View) :
    rawUrl (s.write (f.page view)) =
      .ok (address (f.owner :: f.repository ::
        (f.revision :: f.directories).erase view.other.tag ++ [f.name])) := by
  refine rawUrl_eq_ok_iff.2 ⟨_, behindHost?_write s (f.isSegment_page view), ?_⟩
  rw [filePath_slashed (f.isSegment_page view), erase_tag, erase_tag, View.erase_erase_cons]
  rfl

/-- What stands behind the host name of a page. -/
private theorem behindHost?_segments : behindHost? (address f.segments) =
    (behind? host (slashed f.segments)).or (some (slashed f.segments)) :=
  behindHost?_address f.isSegment

/-- An address on the raw host leads to the one without the first directories that have the names
    of the views, as long as no segment holds the name of the other host. -/
theorem rawUrl_address (h : ∀ t ∈ f.segments, ¬host.toList <:+: t.toList) :
    rawUrl (address f.segments) =
      .ok (address (f.owner :: f.repository ::
        ((f.revision :: f.directories).erase View.blob.tag).erase View.tree.tag ++ [f.name])) := by
  have hbehind := f.behindHost?_segments
  rw [behind?_slashed_eq_none_iff.2 h, Option.none_or] at hbehind
  refine rawUrl_eq_ok_iff.2 ⟨_, hbehind, ?_⟩
  unfold segments
  rw [filePath_slashed f.isSegment, erase_tag, erase_tag]
  rfl

/-- Where a segment holds the name of the other host, the address leads to a shorter one. -/
theorem rawUrl_address_ne (h : ¬∀ t ∈ f.segments, ¬host.toList <:+: t.toList) :
    rawUrl (address f.segments) ≠ .ok (address f.segments) := by
  intro hok
  obtain ⟨path, hbehind, hurl⟩ := rawUrl_eq_ok_iff.1 hok
  -- The host name is found again in the path, so something is left out of the address.
  rw [← behind?_slashed_eq_none_iff, ← ne_eq, Option.ne_none_iff_exists'] at h
  obtain ⟨path', hpath⟩ := h
  rw [behindHost?_segments, hpath, Option.some_or, Option.some.injEq] at hbehind
  subst hbehind
  obtain ⟨⟨before, behind⟩, hfound, rfl⟩ := Option.map_eq_some_iff.1 hpath
  -- No replacement makes the path longer.
  have hshorter : (filePath behind).length ≤ behind.length :=
    Nat.le_trans (Text.length_replaceFirst_le (by decide)) (Text.length_replaceFirst_le (by decide))
  have hsame : slashed f.segments = filePath behind := by
    unfold address at hurl
    rwa [String.ofList_inj, List.append_right_inj, List.append_right_inj] at hurl
  -- The path is shorter than the segments, though both should be the same.
  have hlength := congrArg List.length (Text.eq_of_findWord hfound)
  rw [hsame] at hlength
  simp only [List.length_append] at hlength
  have hhost : 0 < host.toList.length := by decide
  omega

/-- The page of a file leads to its address if and only if neither the revision nor a directory
    above it has the name of the other view, however the address of the page is written.  The
    address leads to itself if and only if neither of them has the name of a view and no segment
    holds the name of the host. -/
theorem rawUrl_eq_address_iff :
    (∀ (s : Spelling) (view : View), rawUrl (s.write (f.page view)) = .ok (address f.segments) ↔
      view.other.tag ∉ f.revision :: f.directories) ∧
    (rawUrl (address f.segments) = .ok (address f.segments) ↔
      (∀ view : View, view.tag ∉ f.revision :: f.directories) ∧
        ∀ t ∈ f.segments, ¬host.toList <:+: t.toList) := by
  -- Owner and repository, and the name at the end, are the same on both sides.
  have hcancel : ∀ directories : List String,
      (Except.ok (address (f.owner :: f.repository :: directories ++ [f.name])) :
        Except Failure String) = .ok (address f.segments) ↔
      slashed directories = slashed (f.revision :: f.directories) := by
    intro directories
    have hsplit : ∀ ds : List String, slashed (f.owner :: f.repository :: ds ++ [f.name]) =
        slashed [f.owner, f.repository] ++ slashed ds ++ slashed [f.name] := by simp
    have hsegments := hsplit (f.revision :: f.directories)
    rw [Except.ok.injEq, address_inj, hsplit, segments]
    rw [List.cons_append] at hsegments ⊢
    rw [hsegments, List.append_left_inj, List.append_right_inj]
  constructor
  · intro s view
    rw [rawUrl_page, hcancel, slashed_erase_eq_iff]
  · by_cases h : ∀ t ∈ f.segments, ¬host.toList <:+: t.toList
    · rw [f.rawUrl_address h, hcancel, slashed_erase_erase_eq_iff, and_iff_left h, View.forall_iff]
    · exact iff_of_false (f.rawUrl_address_ne h) fun hself => h hself.2

/-- A directory `tree` is lost on the way from the page of a file to its address, and so is
    everything in front of a directory `github.com` in an address. -/
theorem rawUrl_otherFile :
    (∃ (f : File) (s : Spelling),
      s.write (f.page .blob) = "https://github.com/u/r/blob/main/tree/a.go" ∧
      address f.segments = "https://raw.githubusercontent.com/u/r/main/tree/a.go" ∧
      rawUrl "https://github.com/u/r/blob/main/tree/a.go" =
        .ok "https://raw.githubusercontent.com/u/r/main/a.go") ∧
    ∃ f : File,
      address f.segments =
        "https://raw.githubusercontent.com/u/r/main/vendor/github.com/x/a.go" ∧
      rawUrl "https://raw.githubusercontent.com/u/r/main/vendor/github.com/x/a.go" =
        .ok "https://raw.githubusercontent.com/x/a.go" := by
  -- A directory named like a view, and a directory named like the host.
  refine ⟨⟨⟨"u", "r", "main", ["tree"], "a.go", by decide, by decide, by decide⟩,
      ⟨[], "https://", false, [], nofun, by decide, nofun⟩, ?_, ?_, rfl⟩,
    ⟨"u", "r", "main", ["vendor", "github.com", "x"], "a.go", by decide, by decide, by decide⟩,
      ?_, rfl⟩
  · decide
  · decide
  · decide

end File

end Transclude.GitHub
