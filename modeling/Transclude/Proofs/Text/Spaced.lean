import Mathlib.Data.List.Forall2
import Transclude.Proofs.Text.Blank

/-!
# Tokens with blanks around them

`Spaced tokens cs` says that the text `cs` is the tokens in their order, with any blanks before,
between and behind them.  Such texts are put together and taken apart at any token
(`spaced_append_iff`), and a single token that neither starts nor ends with a blank is the
trimmed text (`spaced_singleton_iff_trim`).
-/

namespace Transclude.Text

/-! ## Trimming -/

/-- A text that starts with no blank is trimmed on the left. -/
theorem trimLeft_cons_of_not_blank {c : Char} (h : isBlank c = false) (cs : List Char) :
    trimLeft (c :: cs) = c :: cs := by
  simp [trimLeft, h]

/-- A text that ends in no blank is trimmed on the right. -/
theorem trimRight_concat_of_not_blank {c : Char} (h : isBlank c = false) (cs : List Char) :
    trimRight (cs ++ [c]) = cs ++ [c] := by
  simp [trimRight, h]

/-- Behind a first character that is no blank, a text is trimmed at its end. -/
theorem trim_cons {c : Char} (h : isBlank c = false) (cs : List Char) :
    trim (c :: cs) = c :: trimRight cs := by
  rw [trim, trimLeft_cons_of_not_blank h, trimRight_cons, if_neg (by simp [h])]

/-- A trimmed text does not begin with a blank. -/
theorem isBlank_eq_false_of_trim {c : Char} {cs rest : List Char} (h : trim cs = c :: rest) :
    isBlank c = false := by
  have hhead := List.head?_dropWhile_not isBlank (trimRight cs)
  rw [trim_eq, trimLeft] at h
  rw [h] at hhead
  exact hhead

/-- The blanks that are dropped at the end of a text. -/
theorem exists_trimRight_append (cs : List Char) :
    ∃ gap, (∀ c ∈ gap, isBlank c = true) ∧ cs = trimRight cs ++ gap := by
  refine ⟨(cs.reverse.takeWhile isBlank).reverse, fun c hc => ?_, ?_⟩
  · exact List.all_eq_true.1 List.all_takeWhile c (List.mem_reverse.1 hc)
  · rw [trimRight, ← List.reverse_append, List.takeWhile_append_dropWhile, List.reverse_reverse]

/-! ## Tokens -/

/-- The text is the tokens in their order, with blanks before, between and behind them. -/
inductive Spaced : List (List Char) → List Char → Prop where
  | nil {gap : List Char} (hgap : ∀ c ∈ gap, isBlank c = true) : Spaced [] gap
  | cons {gap token rest : List Char} {tokens : List (List Char)}
    (hgap : ∀ c ∈ gap, isBlank c = true) (hrest : Spaced tokens rest) :
    Spaced (token :: tokens) (gap ++ (token ++ rest))

variable {token cs : List Char} {tokens more : List (List Char)}

/-- No tokens stand in a text of blanks. -/
theorem spaced_nil_iff : Spaced [] cs ↔ ∀ c ∈ cs, isBlank c = true := by
  constructor
  · intro h
    cases h with
    | nil hgap => exact hgap
  · exact .nil

/-- The first token stands behind blanks, and the others behind it. -/
theorem spaced_cons_iff : Spaced (token :: tokens) cs ↔
    ∃ gap rest, cs = gap ++ (token ++ rest) ∧ (∀ c ∈ gap, isBlank c = true) ∧
      Spaced tokens rest := by
  constructor
  · intro h
    cases h with
    | cons hgap hrest => exact ⟨_, _, rfl, hgap, hrest⟩
  · rintro ⟨gap, rest, rfl, hgap, hrest⟩
    exact .cons hgap hrest

/-- Tokens may stand without blanks. -/
theorem spaced_flatten (tokens : List (List Char)) : Spaced tokens tokens.flatten := by
  induction tokens with
  | nil => exact .nil (by simp)
  | cons token tokens ih => exact @Spaced.cons [] token _ tokens (by simp) ih

/-- More blanks in front make no difference. -/
theorem Spaced.append_left {gap : List Char} (hgap : ∀ c ∈ gap, isBlank c = true)
    (h : Spaced tokens cs) : Spaced tokens (gap ++ cs) := by
  cases h with
  | nil hmore => exact .nil (List.forall_mem_append.2 ⟨hgap, hmore⟩)
  | cons hmore hrest =>
    rw [← List.append_assoc]
    exact .cons (List.forall_mem_append.2 ⟨hgap, hmore⟩) hrest

/-- Tokens are followed by more tokens. -/
theorem spaced_append_iff : Spaced (tokens ++ more) cs ↔
    ∃ front back, cs = front ++ back ∧ Spaced tokens front ∧ Spaced more back := by
  induction tokens generalizing cs with
  | nil =>
    constructor
    · exact fun h => ⟨[], cs, rfl, .nil (by simp), h⟩
    · rintro ⟨front, back, rfl, hfront, hback⟩
      exact hback.append_left (spaced_nil_iff.1 hfront)
  | cons token tokens ih =>
    rw [List.cons_append, spaced_cons_iff]
    constructor
    -- The gap in front of the token goes with it, so the cut lies behind a token.
    · rintro ⟨gap, rest, rfl, hgap, hrest⟩
      obtain ⟨front, back, rfl, hfront, hback⟩ := ih.1 hrest
      exact ⟨gap ++ (token ++ front), back, by simp, .cons hgap hfront, hback⟩
    · rintro ⟨front, back, rfl, hfront, hback⟩
      obtain ⟨gap, rest, rfl, hgap, hrest⟩ := spaced_cons_iff.1 hfront
      exact ⟨gap, rest ++ back, by simp, hgap, ih.2 ⟨rest, back, rfl, hrest, hback⟩⟩

/-- Every token stands in the text. -/
theorem Spaced.subset (h : Spaced tokens cs) (hmem : token ∈ tokens) : token ⊆ cs := by
  induction h with
  | nil => cases hmem
  | cons _ _ ih =>
    rcases List.mem_cons.1 hmem with rfl | hmem
    · exact fun c hc => by simp [hc]
    · exact fun c hc => by simp [ih hmem hc]

/-- One token stands between blanks. -/
theorem spaced_singleton_iff : Spaced [token] cs ↔
    ∃ front back, cs = front ++ token ++ back ∧ (∀ c ∈ front, isBlank c = true) ∧
      ∀ c ∈ back, isBlank c = true := by
  rw [spaced_cons_iff]
  constructor
  · rintro ⟨front, back, rfl, hfront, hback⟩
    exact ⟨front, back, by simp, hfront, spaced_nil_iff.1 hback⟩
  · rintro ⟨front, back, rfl, hfront, hback⟩
    exact ⟨front, back, by simp, hfront, .nil hback⟩

/-- A token may stand without blanks. -/
theorem spaced_self (cs : List Char) : Spaced [cs] cs :=
  spaced_singleton_iff.2 ⟨[], [], by simp, by simp, by simp⟩

/-- A text is what is left of it when it is trimmed, and blanks. -/
theorem spaced_trim (cs : List Char) : Spaced [trim cs] cs := by
  obtain ⟨back, hback, hright⟩ := exists_trimRight_append (trimLeft cs)
  refine spaced_singleton_iff.2 ⟨leadingBlanks cs, back, ?_, fun c => isBlank_of_mem_leadingBlanks,
    hback⟩
  rw [trim, List.append_assoc, ← hright, leadingBlanks_append_trimLeft]

/-- Trimming a token with blanks around is trimming the token. -/
theorem Spaced.trim_eq (h : Spaced [token] cs) : trim cs = trim token := by
  obtain ⟨front, back, rfl, hfront, hback⟩ := spaced_singleton_iff.1 h
  exact trim_append_append hfront hback token

/-- A token without blanks at its ends is the trimmed text. -/
theorem spaced_singleton_iff_trim (h : trim token = token) :
    Spaced [token] cs ↔ trim cs = token := by
  constructor
  · intro hspaced
    rw [hspaced.trim_eq, h]
  · rintro rfl
    exact spaced_trim cs

/-- A text with no blanks at its ends is trimmed. -/
theorem trim_eq_self_of_ends {first last : Char} {inner : List Char}
    (hfirst : isBlank first = false) (hlast : isBlank last = false) :
    trim (first :: (inner ++ [last])) = first :: (inner ++ [last]) := by
  rw [trim_cons hfirst, trimRight_concat_of_not_blank hlast]

/-- Nothing is left of blanks. -/
theorem trim_eq_nil_iff : trim cs = [] ↔ ∀ c ∈ cs, isBlank c = true := by
  constructor
  · intro h
    have hspaced := spaced_trim cs
    rw [h, spaced_singleton_iff] at hspaced
    obtain ⟨front, back, hcs, hfront, hback⟩ := hspaced
    rw [hcs, List.append_nil, List.forall_mem_append]
    exact ⟨hfront, hback⟩
  · intro h
    have htrim := @trim_append_append cs [] h (by simp) []
    simpa using htrim

/-- Trimming a second time does nothing. -/
theorem trim_trim (cs : List Char) : trim (trim cs) = trim cs := (spaced_trim cs).trim_eq.symm

/-! ## Words between separators -/

/-- Tokens with a separator between them are texts, one for each token, put together with it. -/
theorem spaced_intersperse_iff {sep : List Char} (hne : tokens ≠ []) :
    Spaced (tokens.intersperse sep) cs ↔
      ∃ parts, List.Forall₂ (fun token part => Spaced [token] part) tokens parts ∧
        cs = sep.intercalate parts := by
  induction tokens generalizing cs with
  | nil => exact absurd rfl hne
  | cons token tokens ih =>
    cases tokens with
    | nil =>
      simp only [List.intersperse_singleton, List.forall₂_cons_left_iff, List.forall₂_nil_left_iff]
      constructor
      · exact fun h => ⟨[cs], ⟨cs, [], h, rfl, rfl⟩, by simp [List.intercalate]⟩
      · rintro ⟨_, ⟨part, _, hpart, rfl, rfl⟩, rfl⟩
        simpa [List.intercalate] using hpart
    | cons second tokens =>
      have hsplit : (token :: second :: tokens).intersperse sep =
          [token] ++ ([sep] ++ (second :: tokens).intersperse sep) := rfl
      rw [hsplit, spaced_append_iff]
      constructor
      · rintro ⟨part, back, rfl, hpart, hback⟩
        -- The blanks in front of the separator belong to the part before it.
        obtain ⟨gap, rest, rfl, hgap, hrest⟩ := spaced_cons_iff.1 hback
        obtain ⟨parts, hparts, rfl⟩ := (ih (by simp)).1 hrest
        obtain ⟨front, more, rfl, hfront, hmore⟩ := spaced_singleton_iff.1 hpart
        refine ⟨(front ++ token ++ (more ++ gap)) :: parts, .cons ?_ hparts, ?_⟩
        · exact spaced_singleton_iff.2 ⟨_, _, rfl, hfront, List.forall_mem_append.2 ⟨hmore, hgap⟩⟩
        · cases hparts with
          | cons => simp [List.intercalate]
      · rintro ⟨_, hparts, rfl⟩
        obtain ⟨part, parts, hpart, hrest, rfl⟩ := List.forall₂_cons_left_iff.1 hparts
        refine ⟨part, sep ++ sep.intercalate parts, ?_, hpart, ?_⟩
        · cases hrest with
          | cons => simp [List.intercalate]
        · exact @Spaced.cons [] sep _ _ (by simp) ((ih (by simp)).2 ⟨parts, hrest, rfl⟩)

end Transclude.Text
