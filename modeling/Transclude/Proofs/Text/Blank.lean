import Transclude.Text.Blank

/-!
# Trimming

Blanks added at an end of a text make no difference to the trimmed text.
Trimming at the right end follows the text character by character
(`trimRight_cons`), and the two ends can be trimmed in either order
(`trimRight_trimLeft`).
-/

namespace Transclude.Text

/-- A character in front goes with the text behind it, unless all of them are blanks. -/
theorem trimRight_cons (c : Char) (cs : List Char) :
    trimRight (c :: cs) =
      if trimRight cs = [] ∧ isBlank c = true then [] else c :: trimRight cs := by
  simp only [trimRight, List.reverse_cons, List.dropWhile_append, List.isEmpty_iff,
    List.reverse_eq_nil_iff]
  cases hdrop : cs.reverse.dropWhile isBlank with
  | nil =>
    cases hc : isBlank c <;> simp [List.dropWhile, hc]
  | cons d ds => simp

/-- The order in which the ends are trimmed makes no difference. -/
theorem trimRight_trimLeft (cs : List Char) :
    trimRight (trimLeft cs) = trimLeft (trimRight cs) := by
  -- Either the first character is blank and dropped by both, or it is kept by both.
  induction cs with
  | nil => rfl
  | cons c cs ih =>
    cases hc : isBlank c with
    | true =>
      have hleft : trimLeft (c :: cs) = trimLeft cs := by simp [trimLeft, hc]
      rw [hleft, ih, trimRight_cons]
      split
      · rename_i h
        rw [h.1]
      · simp [trimLeft, hc]
    | false =>
      have hleft : ∀ ds, trimLeft (c :: ds) = c :: ds := fun ds => by simp [trimLeft, hc]
      rw [hleft, trimRight_cons, if_neg (by simp [hc]), hleft]

/-- It does not matter at which end a text is trimmed first. -/
theorem trim_eq (cs : List Char) : trim cs = trimLeft (trimRight cs) := trimRight_trimLeft cs

/-- Blanks in front are dropped. -/
theorem trimLeft_append {bs : List Char} (h : ∀ b ∈ bs, isBlank b = true) (cs : List Char) :
    trimLeft (bs ++ cs) = trimLeft cs :=
  List.dropWhile_append_of_pos h

/-- Blanks behind are dropped. -/
theorem trimRight_append {bs : List Char} (h : ∀ b ∈ bs, isBlank b = true) (cs : List Char) :
    trimRight (cs ++ bs) = trimRight cs := by
  unfold trimRight
  rw [List.reverse_append, List.dropWhile_append_of_pos]
  intro b hb
  exact h b (List.mem_reverse.1 hb)

/-- Blanks at both ends make no difference. -/
theorem trim_append_append {as bs : List Char} (ha : ∀ a ∈ as, isBlank a = true)
    (hb : ∀ b ∈ bs, isBlank b = true) (cs : List Char) : trim (as ++ cs ++ bs) = trim cs := by
  rw [trim_eq, trimRight_append hb, ← trim_eq, trim, trimLeft_append ha, trim]

/-- A text without blanks has nothing to trim. -/
theorem trim_eq_self {cs : List Char} (h : ∀ c ∈ cs, isBlank c = false) : trim cs = cs := by
  have hdrop : ∀ ds : List Char, (∀ d ∈ ds, isBlank d = false) → ds.dropWhile isBlank = ds := by
    intro ds hds
    cases ds with
    | nil => rfl
    | cons d ds => exact List.dropWhile_cons_of_neg (by simp [hds])
  rw [trim, trimLeft, hdrop cs h, trimRight, hdrop _ fun c hc => h c (List.mem_reverse.1 hc),
    List.reverse_reverse]

/-- The blanks at the head of a text are blanks. -/
theorem isBlank_of_mem_leadingBlanks {cs : List Char} {c : Char} (h : c ∈ leadingBlanks cs) :
    isBlank c = true :=
  List.all_eq_true.1 (List.all_takeWhile) c h

end Transclude.Text
