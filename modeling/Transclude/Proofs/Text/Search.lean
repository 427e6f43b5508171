import Transclude.Text.Search

/-!
# Cutting a text at a character

A text is cut where a character ends it (`takeWhile_append`, `append_cons_inj`).  Finding
or replacing a word leaves alone what stands in front of the first place where it might
start (`findWord_append`, `replaceFirst_append`).
-/

namespace Transclude.Text

variable {word replacement cs : List Char} {c : Char}

/-- What holds of the characters of a text, one after the other. -/
theorem forall_mem_of_all {P : Char → Prop} [DecidablePred P]
    (h : (cs.all fun c => decide (P c)) = true) : ∀ c ∈ cs, P c :=
  fun c hc => of_decide_eq_true (List.all_eq_true.1 h c hc)

/-- A text up to the first character that ends it. -/
theorem takeWhile_append {p : Char → Bool} {front rest : List Char}
    (hfront : ∀ c ∈ front, p c = true)
    (hrest : ∀ c ∈ rest.head?, p c = false) : (front ++ rest).takeWhile p = front := by
  rw [List.takeWhile_append_of_pos hfront]
  cases rest with
  | nil => rw [List.takeWhile_nil, List.append_nil]
  | cons c cs =>
    have hc : ¬p c = true := by rw [hrest c rfl]; exact Bool.false_ne_true
    rw [List.takeWhile_cons_of_neg hc, List.append_nil]

/-- A text up to the first `c` is the same on both sides. -/
theorem append_cons_inj {front front' rest rest' : List Char} (h : c ∉ front) (h' : c ∉ front')
    (heq : front ++ c :: rest = front' ++ c :: rest') : front = front' ∧ rest = rest' := by
  rcases List.append_eq_append_iff.1 heq with ⟨more, rfl, hmore⟩ | ⟨more, rfl, hmore⟩
  · cases more with
    | nil => simpa using hmore
    | cons d more =>
      -- The `c` behind `front` would stand in `front'`.
      obtain ⟨rfl, -⟩ := List.cons.inj hmore
      exact absurd (by simp) h'
  · cases more with
    | nil => simpa [eq_comm] using hmore
    | cons d more =>
      obtain ⟨rfl, -⟩ := List.cons.inj hmore
      exact absurd (by simp) h

/-- A word without `c` stands on one side of a `c`. -/
theorem infix_append_cons_iff {front rest : List Char} (h : c ∉ word) :
    word <:+: front ++ c :: rest ↔ word <:+: front ∨ word <:+: rest := by
  constructor
  · rintro ⟨before, behind, heq⟩
    rcases List.append_eq_append_iff.1 heq with ⟨more, rfl, -⟩ | ⟨more, hfront, hrest⟩
    · exact .inl ⟨before, more, rfl⟩
    · cases more with
      | nil => exact .inl ⟨before, [], by simpa using hfront⟩
      | cons d more =>
        obtain ⟨rfl, rfl⟩ := List.cons.inj hrest
        -- The `c` stands in front of `word`, since it does not stand in it.
        rcases List.append_eq_append_iff.1 hfront with ⟨gap, rfl, hword⟩ | ⟨gap, rfl, hword⟩
        · exact absurd (by rw [hword]; simp) h
        · cases gap with
          | nil => exact absurd (by rw [← List.nil_append word, ← hword]; simp) h
          | cons d gap =>
            obtain ⟨rfl, rfl⟩ := List.cons.inj hword
            exact .inr ⟨gap, behind, rfl⟩
  · rintro (hword | hword)
    · exact hword.trans (List.infix_append' [] _ _)
    · exact hword.trans ⟨front ++ [c], [], by simp⟩

/-- A word that does not start here is searched for behind the first character. -/
theorem findWord_cons (h : word.isPrefixOf (c :: cs) = false) :
    findWord word (c :: cs) = (findWord word cs).map fun found => (c :: found.1, found.2) := by
  rw [findWord, if_neg (by rw [h]; exact Bool.false_ne_true)]

/-- A word that starts with a character is not found where that character does not stand. -/
theorem findWord_append {front : List Char} (h : ∀ d ∈ front, d ≠ c) :
    findWord (c :: word) (front ++ cs) =
      (findWord (c :: word) cs).map fun found => (front ++ found.1, found.2) := by
  induction front with
  | nil => simp
  | cons d front ih =>
    -- The first character of the word does not stand in front.
    have hd : c ≠ d := fun he => h d List.mem_cons_self he.symm
    rw [List.cons_append, findWord_cons (by simp [List.isPrefixOf, hd]),
      ih fun e he => h e (List.mem_cons_of_mem _ he), Option.map_map]
    rfl

/-- A word that is not found stands nowhere in the text. -/
theorem findWord_eq_none_iff : findWord word cs = none ↔ ¬word <:+: cs := by
  induction cs with
  | nil =>
    rw [findWord, List.infix_nil, ← List.isEmpty_iff]
    cases word.isEmpty <;> simp
  | cons c cs ih =>
    rw [findWord, List.infix_cons_iff, not_or, ← ih, ← List.isPrefixOf_iff_prefix]
    cases word.isPrefixOf (c :: cs) <;> simp

/-- A word is found where it stands. -/
theorem findWord_self (cs : List Char) :
    findWord (c :: word) (c :: word ++ cs) = some ([], cs) := by
  have hprefix : (c :: word).isPrefixOf (c :: word ++ cs) = true :=
    List.isPrefixOf_iff_prefix.2 (List.prefix_append _ _)
  rw [List.cons_append] at hprefix ⊢
  rw [findWord, if_pos hprefix, ← List.cons_append, List.drop_left]

/-- Replacing by something shorter makes a text no longer. -/
theorem length_replaceFirst_le (h : replacement.length ≤ word.length) :
    (replaceFirst word replacement cs).length ≤ cs.length := by
  unfold replaceFirst
  cases hfind : findWord word cs with
  | none => exact Nat.le_refl _
  | some found =>
    have hcs := congrArg List.length (eq_of_findWord hfind)
    simp only [List.length_append] at hcs ⊢
    omega

/-- A word at the start is replaced. -/
theorem replaceFirst_self (cs : List Char) :
    replaceFirst (c :: word) replacement (c :: word ++ cs) = replacement ++ cs := by
  rw [replaceFirst, findWord_self]
  rfl

/-- A word that does not start here is replaced behind the first character. -/
theorem replaceFirst_cons (h : word.isPrefixOf (c :: cs) = false) :
    replaceFirst word replacement (c :: cs) = c :: replaceFirst word replacement cs := by
  unfold replaceFirst
  rw [findWord, if_neg (by rw [h]; exact Bool.false_ne_true)]
  cases findWord word cs <;> rfl

/-- A word that starts with a character is not found where that character does not stand. -/
theorem replaceFirst_append {front : List Char} (h : ∀ d ∈ front, d ≠ c) :
    replaceFirst (c :: word) replacement (front ++ cs) =
      front ++ replaceFirst (c :: word) replacement cs := by
  induction front with
  | nil => rfl
  | cons d front ih =>
    have hd : d ≠ c := h d List.mem_cons_self
    rw [List.cons_append, replaceFirst_cons, ih fun e he => h e (List.mem_cons_of_mem _ he)]
    · rfl
    · simp [List.isPrefixOf, hd.symm]

/-- What stands in front of the first `c` is not changed where `c` and what follows is replaced by
    `c` and something else. -/
theorem takeWhile_replaceFirst {p : Char → Bool} (hc : p c = false) (rest : List Char) :
    (replaceFirst (c :: word) (c :: rest) cs).takeWhile p = cs.takeWhile p := by
  have hstop : ∀ before tail tail' : List Char,
      (before ++ c :: tail).takeWhile p = (before ++ c :: tail').takeWhile p := by
    intro before tail tail'
    induction before with
    | nil => simp [hc]
    | cons d before ih => simp [List.takeWhile_cons, ih]
  unfold replaceFirst
  cases hfind : findWord (c :: word) cs with
  | none => rfl
  | some found =>
    obtain ⟨before, behind⟩ := found
    have hcs := eq_of_findWord hfind
    simp only [List.append_assoc, List.cons_append] at hcs ⊢
    rw [hcs]
    exact hstop _ _ _

end Transclude.Text
