import Transclude.Proofs.Document.Transparency
import Transclude.Proofs.Text.Search

/-!
# When two locators meet

The locator of an excerpt is put together from the source, the kind and the name,
and it can be taken apart in more than one way: the name of the one excerpt may
hold a kind between two points, and then what stands before it may be the end of
the source of another (`snippetUri_eq_iff`).  The locator of a source may be taken
for that of an excerpt in the same way.

A directive is `Clear` if neither its name nor its source can be taken apart so,
and exactly then no other directive can be mistaken for it (`clear_iff`).
Directives that are clear never share a locator (`unambiguous_of_clear`), which is
what a common store asks for.
-/

namespace Transclude

/-- No kind has a point in its tag. -/
private theorem Kind.point_not_mem_tag (kind : Kind) : '.' ∉ kind.tag.toList := by
  cases kind <;> decide

/-- Kinds have different tags. -/
private theorem Kind.tag_injective {kind kind' : Kind} (h : kind.tag.toList = kind'.tag.toList) :
    kind = kind' := by
  revert h
  cases kind <;> cases kind' <;> decide

/-- Every kind is listed. -/
private theorem Kind.mem_all (kind : Kind) : kind ∈ Kind.all := by
  cases kind <;> decide

namespace Directive

/-! ## Taking a locator apart -/

/-- The key of an excerpt is the source, the kind and the name with points between. -/
private theorem toList_snippetUri (d : Directive) :
    d.snippetUri.toList =
      d.source.toList ++ '.' :: (d.kind.tag.toList ++ '.' :: d.name.toList) := by
  simp [snippetUri]

/-- The directives ask for the same excerpt, maybe with other lines of it or in another language. -/
def SameExcerpt (d e : Directive) : Prop :=
  d.source = e.source ∧ d.kind = e.kind ∧ d.name = e.name

/-- The source of `e` goes on into what is the name for `d`: it is source and kind of `d` and some
    of its name up to a point, and what follows are the kind and the name of `e`. -/
def Overlaps (d e : Directive) : Prop :=
  ∃ front : List Char,
    e.source.toList = d.source.toList ++ '.' :: (d.kind.tag.toList ++ front) ∧
      '.' :: d.name.toList = front ++ '.' :: (e.kind.tag.toList ++ '.' :: e.name.toList)

/-- Where the source of `e` is not shorter than that of `d`, a locator in common is one excerpt or
    one that overlaps. -/
theorem same_or_overlaps {d e : Directive} {more : List Char}
    (hsource : e.source.toList = d.source.toList ++ more)
    (h : '.' :: (d.kind.tag.toList ++ '.' :: d.name.toList) =
      more ++ '.' :: (e.kind.tag.toList ++ '.' :: e.name.toList)) :
    SameExcerpt d e ∨ Overlaps d e := by
  cases more with
  | nil =>
    -- The sources are the same, so the kinds end at the same point.
    left
    obtain ⟨hkind, hname⟩ := Text.append_cons_inj d.kind.point_not_mem_tag e.kind.point_not_mem_tag
      (List.cons.inj h).2
    rw [List.append_nil] at hsource
    exact ⟨(String.toList_inj.1 hsource).symm, Kind.tag_injective hkind, String.toList_inj.1 hname⟩
  | cons c more =>
    right
    obtain ⟨rfl, hrest⟩ := List.cons.inj h
    rcases List.append_eq_append_iff.1 hrest with ⟨front, rfl, hfront⟩ | ⟨front, hkind, hfront⟩
    · exact ⟨front, hsource, hfront⟩
    · cases front with
      | nil =>
        refine ⟨[], ?_, hfront.symm⟩
        rw [hsource, hkind, List.append_nil, List.append_nil]
      | cons c front =>
        -- The point in front of the kind of `e` would stand in the kind of `d`.
        obtain ⟨rfl, -⟩ := List.cons.inj hfront
        exact absurd (by rw [hkind]; simp) d.kind.point_not_mem_tag

/-- Directives that overlap have the same key. -/
private theorem Overlaps.snippetUri_eq {d e : Directive} (h : Overlaps d e) :
    d.snippetUri = e.snippetUri := by
  obtain ⟨front, hsource, hname⟩ := h
  rw [← String.toList_inj, toList_snippetUri, toList_snippetUri, hsource, hname]
  simp

/-- Of two directives that overlap one has the longer source. -/
private theorem Overlaps.length_lt {d e : Directive} (h : Overlaps d e) :
    d.source.length < e.source.length := by
  obtain ⟨front, hsource, -⟩ := h
  rw [← String.length_toList, ← String.length_toList, hsource]
  simp

/-- Two directives have a locator in common if they ask for the same excerpt, or if the source of
    one goes on into the name of the other, and not otherwise. -/
theorem snippetUri_eq_iff {d e : Directive} :
    d.snippetUri = e.snippetUri ↔ SameExcerpt d e ∨ Overlaps d e ∨ Overlaps e d := by
  constructor
  · intro h
    -- One of the sources is the beginning of the other, and the rest tells what stands between.
    rw [← String.toList_inj, toList_snippetUri, toList_snippetUri] at h
    rcases List.append_eq_append_iff.1 h with ⟨more, hsource, hrest⟩ | ⟨more, hsource, hrest⟩
    · exact (same_or_overlaps hsource hrest).imp_right Or.inl
    · rcases same_or_overlaps hsource hrest with ⟨hs, hk, hn⟩ | hoverlaps
      · exact .inl ⟨hs.symm, hk.symm, hn.symm⟩
      · exact .inr (.inr hoverlaps)
  · rintro (⟨hsource, hkind, hname⟩ | h | h)
    · rw [snippetUri, snippetUri, hsource, hkind, hname]
    · exact h.snippetUri_eq
    · exact h.snippetUri_eq.symm

/-! ## Clear directives -/

/-- Somewhere in the text a kind stands between two points. -/
def HoldsKind (cs : List Char) : Prop :=
  ∃ kind ∈ Kind.all, '.' :: (kind.tag.toList ++ ['.']) <:+: cs

instance (cs : List Char) : Decidable (HoldsKind cs) :=
  inferInstanceAs (Decidable (∃ kind ∈ Kind.all, _))

/-- A text holds a kind where its tag stands between two points. -/
private theorem holdsKind_iff {cs : List Char} :
    HoldsKind cs ↔
      ∃ front kind behind, cs = front ++ '.' :: (Kind.tag kind).toList ++ '.' :: behind := by
  constructor
  · rintro ⟨kind, -, front, behind, h⟩
    exact ⟨front, kind, behind, by simp [← h]⟩
  · rintro ⟨front, kind, behind, rfl⟩
    exact ⟨kind, kind.mem_all, front, behind, by simp⟩

/-- No kind stands between points in the source of the directive or at the head of its name or in
    it. -/
structure Clear (d : Directive) : Prop where
  name : ¬HoldsKind ('.' :: d.name.toList)
  source : ¬HoldsKind d.source.toList

instance (d : Directive) : Decidable d.Clear :=
  decidable_of_iff (¬HoldsKind ('.' :: d.name.toList) ∧ ¬HoldsKind d.source.toList)
    ⟨fun h => ⟨h.1, h.2⟩, fun h => ⟨h.name, h.source⟩⟩

/-- A clear directive overlaps none. -/
private theorem Clear.not_overlaps {d e : Directive} (h : d.Clear) : ¬Overlaps d e := by
  rintro ⟨front, -, hname⟩
  exact h.name (holdsKind_iff.2 ⟨front, e.kind, e.name.toList, by simp [hname]⟩)

/-- The source of a clear directive does not go by the locator of an excerpt. -/
theorem Clear.snippetUri_ne {d e : Directive} (h : e.Clear) : d.snippetUri ≠ e.sourceUri := by
  intro heq
  rw [← String.toList_inj, toList_snippetUri] at heq
  refine h.source (holdsKind_iff.2 ⟨d.source.toList, d.kind, d.name.toList, ?_⟩)
  rw [sourceUri] at heq
  simp [← heq]

/-- A name that holds a kind belongs to another excerpt as well, one of a longer source. -/
theorem exists_overlaps {d : Directive} (h : HoldsKind ('.' :: d.name.toList)) :
    ∃ e, Overlaps d e := by
  obtain ⟨front, kind, behind, hname⟩ := holdsKind_iff.1 h
  refine ⟨{ d with
    source := String.ofList (d.source.toList ++ '.' :: (d.kind.tag.toList ++ front))
    kind
    name := String.ofList behind }, front, ?_, ?_⟩
  · simp
  · simp [hname]

/-- A source that holds a kind goes by the locator of an excerpt as well. -/
theorem exists_snippetUri_eq {d : Directive} (h : HoldsKind d.source.toList) :
    ∃ e : Directive, e.snippetUri = d.sourceUri := by
  obtain ⟨front, kind, behind, hsource⟩ := holdsKind_iff.1 h
  refine ⟨{ d with source := String.ofList front, kind, name := String.ofList behind }, ?_⟩
  rw [← String.toList_inj, toList_snippetUri, sourceUri, hsource]
  simp

/-- A directive is clear if its locator belongs to no excerpt of a longer source, and the locator of
    its source to no excerpt at all. -/
theorem clear_iff {d : Directive} :
    d.Clear ↔ ∀ e : Directive,
      (e.snippetUri = d.snippetUri → e.source.length ≤ d.source.length) ∧
        e.snippetUri ≠ d.sourceUri := by
  constructor
  · intro h e
    refine ⟨fun heq => ?_, h.snippetUri_ne⟩
    rcases snippetUri_eq_iff.1 heq with ⟨hsource, -, -⟩ | hoverlaps | hoverlaps
    · exact Nat.le_of_eq (congrArg String.length hsource)
    · exact Nat.le_of_lt hoverlaps.length_lt
    · exact absurd hoverlaps h.not_overlaps
  · intro h
    -- Both conditions are exact: without them there is a directive that overlaps.
    refine ⟨fun hname => ?_, fun hsource => ?_⟩
    · obtain ⟨e, hoverlaps⟩ := exists_overlaps hname
      have hle := (h e).1 hoverlaps.snippetUri_eq.symm
      have hlt := hoverlaps.length_lt
      omega
    · obtain ⟨e, heq⟩ := exists_snippetUri_eq hsource
      exact (h e).2 heq

/-- Clear directives have a locator in common only if they ask for the same excerpt, and none of
    their excerpts goes by the locator of a source. -/
theorem unambiguous_of_clear {directives : List Directive} (h : ∀ d ∈ directives, d.Clear) :
    Unambiguous directives where
  apart d _ e he := (h e he).snippetUri_ne
  same d hd e he heq := by
    rcases snippetUri_eq_iff.1 heq with hsame | hoverlaps | hoverlaps
    · exact hsame
    · exact absurd hoverlaps (h d hd).not_overlaps
    · exact absurd hoverlaps (h e he).not_overlaps

/-- Names and sources with points and with the words for kinds in them. -/
def sampleDirectives : List Directive :=
  [⟨.go, .function, "T.type", "a.b/file.go", 0, 0⟩, ⟨.go, .type, "T", "a.b/file.go", 0, 0⟩,
    ⟨.yaml, .node, "node", "a.node", 0, 0⟩, ⟨.yaml, .file, "a.node", "a", 0, -1⟩]

/-- The sample directives are clear, and so each key stands for one of them. -/
theorem unambiguous_of_clear_sample :
    (∀ d ∈ sampleDirectives, d.Clear) ∧ Unambiguous sampleDirectives :=
  have h : ∀ d ∈ sampleDirectives, d.Clear := by decide +kernel
  ⟨h, unambiguous_of_clear h⟩

/-- Two directives ask for different excerpts by one locator, which is that of the source of a third
    one. -/
theorem parse_ambiguous :
    ∃ d e f,
      parse "<!-- pluck(\"yaml\", \"node\", \"b.node.c\", \"a\", 0, 0) -->" = .ok d ∧
        parse "<!-- pluck(\"yaml\", \"node\", \"c\", \"a.node.b\", 0, 0) -->" = .ok e ∧
        parse "<!-- pluck(\"yaml\", \"file\", \"n\", \"a.node.b.node.c\", 0, 0) -->" = .ok f ∧
        d.snippetUri = e.snippetUri ∧ ¬SameExcerpt d e ∧ d.snippetUri = f.sourceUri :=
  ⟨⟨.yaml, .node, "b.node.c", "a", 0, 0⟩, ⟨.yaml, .node, "c", "a.node.b", 0, 0⟩,
    ⟨.yaml, .file, "n", "a.node.b.node.c", 0, 0⟩, rfl, rfl, rfl, by decide,
    fun h => absurd h.1 (by decide), by decide⟩

end Directive

end Transclude
