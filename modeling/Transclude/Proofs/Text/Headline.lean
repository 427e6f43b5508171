import Transclude.Proofs.Text.Search
import Transclude.Proofs.Text.Spaced
import Transclude.Text.Line

/-!
# The headline of a message

A message is shown by its `Headline`: the first line of the stripped text, without the blanks at
the end of that line.

## Key results

- `firstLine_eq_some_iff`: the first line that is shown of a message is its headline, so there is
  at most one headline.
- `firstLine_eq_none_iff`: a message has no headline exactly if it is `Blank`.

Both rest on `isBlank_of_isLineBreak`: what ends a line is a blank, so the first line of a
stripped text is never empty.
-/

namespace Transclude.Text

variable {cs rest : List Char} {c : Char} {text line : String}

/-- Every character that ends a line is a blank. -/
theorem isBlank_of_isLineBreak (h : isLineBreak c = true) : isBlank c = true := by
  simp only [isLineBreak, isBlank, Bool.or_eq_true, Bool.and_eq_true, decide_eq_true_eq,
    beq_iff_eq] at h ⊢
  omega

/-! ## Headlines -/

/-- A text of nothing but blanks. -/
def Blank (text : String) : Prop := ∀ c ∈ text.toList, isBlank c = true

instance : DecidablePred Blank := fun text =>
  inferInstanceAs (Decidable (∀ c ∈ text.toList, isBlank c = true))

/-- `line` is the first line of the stripped text, without the blanks at the end of that line. -/
structure Headline (text line : String) : Prop where
  ne_empty : line ≠ ""
  stripped_eq : stripped line = line
  oneLine : ∀ c ∈ line.toList, isLineBreak c = false
  /-- Behind the line there are blanks of its own, and then a line break or nothing. -/
  leads : ∃ gap rest, (stripped text).toList = line.toList ++ gap ++ rest ∧
    (∀ c ∈ gap, isBlank c = true ∧ isLineBreak c = false) ∧
    ∀ c ∈ rest.head?, isLineBreak c = true

/-- The characters of a text up to the first line break. -/
def untilBreak (cs : List Char) : List Char := cs.takeWhile fun c => !isLineBreak c

/-- There is no break in front of the first break. -/
private theorem isLineBreak_of_mem_untilBreak (h : c ∈ untilBreak cs) : isLineBreak c = false := by
  have hall := List.all_eq_true.1 List.all_takeWhile c h
  simpa using hall

/-- Behind the first line there is a line break or nothing. -/
theorem exists_untilBreak_append (cs : List Char) :
    ∃ rest, cs = untilBreak cs ++ rest ∧ ∀ c ∈ rest.head?, isLineBreak c = true := by
  refine ⟨cs.dropWhile fun c => !isLineBreak c, List.takeWhile_append_dropWhile.symm, ?_⟩
  intro c hc
  have hhead := List.head?_dropWhile_not (fun c => !isLineBreak c) cs
  rw [Option.mem_def.1 hc] at hhead
  simpa using hhead

/-- The text up to the first break. -/
private theorem untilBreak_append (h : ∀ c ∈ cs, isLineBreak c = false)
    (hrest : ∀ c ∈ rest.head?, isLineBreak c = true) : untilBreak (cs ++ rest) = cs := by
  apply takeWhile_append
  · intro c hc
    simp [h c hc]
  · intro c hc
    simp [hrest c hc]

/-- A character that is no blank is no break. -/
private theorem untilBreak_cons (h : isBlank c = false) (rest : List Char) :
    untilBreak (c :: rest) = c :: untilBreak rest := by
  -- A line break would be a blank.
  have hbreak : isLineBreak c = false := by
    by_contra hc
    rw [Bool.not_eq_false] at hc
    simp [isBlank_of_isLineBreak hc] at h
  simp [untilBreak, hbreak]

/-- The first line is trimmed before and after it is cut off. -/
private theorem firstLine_eq (text : String) :
    firstLine text =
      let line := trim (untilBreak (trim text.toList))
      if line.isEmpty then none else some (String.ofList line) := rfl

/-- A text without a first line is blank. -/
theorem firstLine_eq_none_iff : firstLine text = none ↔ Blank text := by
  rw [firstLine_eq, Blank, ← trim_eq_nil_iff]
  cases htrim : trim text.toList with
  | nil => simp [untilBreak]
  | cons c rest =>
    have hc := isBlank_eq_false_of_trim htrim
    simp [untilBreak_cons hc, trim_cons hc]

/-- The first line of a text is a headline. -/
theorem headline_of_firstLine (h : firstLine text = some line) : Headline text line := by
  have hline : line.toList = trim (untilBreak (trim text.toList)) := by
    rw [firstLine_eq] at h
    dsimp only at h
    split at h
    · cases h
    · rw [← Option.some.inj h, String.toList_ofList]
  cases htrim : trim text.toList with
  | nil =>
    -- The text would be blank.
    have hblank := trim_eq_nil_iff.1 htrim
    rw [firstLine_eq_none_iff.2 hblank] at h
    cases h
  | cons c rest =>
    have hc := isBlank_eq_false_of_trim htrim
    rw [htrim] at hline
    obtain ⟨gap, hgap, hfirst⟩ := exists_trimRight_append (untilBreak rest)
    have hsplit : untilBreak (c :: rest) = line.toList ++ gap := by
      rw [hline, untilBreak_cons hc, trim_cons hc, List.cons_append, ← hfirst]
    have hone : ∀ d ∈ line.toList ++ gap, isLineBreak d = false := by
      intro d hd
      rw [← hsplit] at hd
      exact isLineBreak_of_mem_untilBreak hd
    rw [List.forall_mem_append] at hone
    constructor
    case ne_empty =>
      intro he
      rw [he, untilBreak_cons hc, trim_cons hc] at hline
      simp at hline
    case stripped_eq =>
      rw [← String.toList_inj, toList_stripped, hline, trim_trim]
    case oneLine => exact hone.1
    case leads =>
      obtain ⟨behind, hbehind, hbreak⟩ := exists_untilBreak_append (c :: rest)
      refine ⟨gap, behind, ?_, fun d hd => ⟨hgap d hd, hone.2 d hd⟩, hbreak⟩
      rw [toList_stripped, htrim, ← hsplit]
      exact hbehind

/-- A headline is the first line. -/
theorem Headline.firstLine_eq (h : Headline text line) : firstLine text = some line := by
  obtain ⟨gap, rest, hsplit, hgap, hrest⟩ := h.leads
  -- The first line ends where the text breaks or where it ends.
  have hfirst : untilBreak (trim text.toList) = line.toList ++ gap := by
    rw [← toList_stripped, hsplit]
    apply untilBreak_append _ hrest
    rw [List.forall_mem_append]
    exact ⟨h.oneLine, fun c hc => (hgap c hc).2⟩
  -- What stands behind the line is blank.
  have htrim : trim (line.toList ++ gap) = line.toList := by
    have hends := @trim_append_append [] gap (by simp) (fun c hc => (hgap c hc).1) line.toList
    rw [← toList_stripped, h.stripped_eq] at hends
    exact hends
  have hne : line.toList ≠ [] := by
    simpa using h.ne_empty
  simp [Text.firstLine_eq, hfirst, htrim, hne]

/-- The first line is exactly the headline of the text. -/
theorem firstLine_eq_some_iff : firstLine text = some line ↔ Headline text line :=
  ⟨headline_of_firstLine, Headline.firstLine_eq⟩

/-- A line may be ended by a separator that is no newline, here by U+2028. -/
example : firstLine "\n\ta b \u2028c\n" = some "a b" := by decide

/-- A message has a headline, or it is blank and has no first line. -/
theorem firstLine_cases (text : String) :
    ¬Blank text ∧ (∃ line, firstLine text = some line ∧ Headline text line) ∨
      Blank text ∧ firstLine text = none := by
  cases hfirst : firstLine text with
  | none => exact .inr ⟨firstLine_eq_none_iff.1 hfirst, rfl⟩
  | some line =>
    have hblank : ¬Blank text := by
      rw [← firstLine_eq_none_iff, hfirst]
      simp
    exact .inl ⟨hblank, line, rfl, headline_of_firstLine hfirst⟩

end Transclude.Text
