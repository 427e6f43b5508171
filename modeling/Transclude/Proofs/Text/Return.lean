import Transclude.Proofs.CodeBlock

/-!
# Carriage returns in front of newlines

`Returned cs cs'` says that `cs'` is `cs` with a carriage return in front of some of its newlines,
and that `cs` holds none.  Taken apart and put together, texts stay so related
(`Returned.append`, `Returned.exists_of_append`), so what goes through a text from its
start can be compared with what goes through the other one.
-/

namespace Transclude

open CodeBlock (addReturns dropReturns)

/-- A text with a carriage return in front of every newline. -/
def withReturns (text : String) : String := String.ofList (addReturns text.toList)

/-- A text without the carriage returns in front of its newlines. -/
def withoutPairs (text : String) : String := String.ofList (dropReturns text.toList)

/-- Carriage returns are added to the parts of a text. -/
theorem withReturns_append (s t : String) :
    withReturns (s ++ t) = withReturns s ++ withReturns t := by
  simp [withReturns, CodeBlock.addReturns_append]

/-- The second text is the first one with a carriage return in front of some of its newlines. -/
inductive Returned : List Char → List Char → Prop where
  | nil : Returned [] []
  | cons {c : Char} {cs cs' : List Char} (hc : c ≠ '\r') (h : Returned cs cs') :
    Returned (c :: cs) (c :: cs')
  | newline {cs cs' : List Char} (h : Returned cs cs') : Returned ('\n' :: cs) ('\r' :: '\n' :: cs')

namespace Returned

variable {cs cs' ds ds' : List Char} {c : Char}

/-- A text without carriage returns may stay as it is. -/
theorem refl (h : '\r' ∉ cs) : Returned cs cs := by
  induction cs with
  | nil => exact .nil
  | cons c cs ih =>
    simp only [List.mem_cons, not_or] at h
    exact .cons (Ne.symm h.1) (ih h.2)

/-- Every newline may get one. -/
theorem addReturns (h : '\r' ∉ cs) : Returned cs (addReturns cs) := by
  induction cs with
  | nil => exact .nil
  | cons c cs ih =>
    -- A character that is not a newline is written as it is.
    simp only [List.mem_cons, not_or] at h
    by_cases hc : c = '\n'
    · subst hc
      exact .newline (ih h.2)
    · have hcons : CodeBlock.addReturns (c :: cs) = c :: CodeBlock.addReturns cs := by
        simp [CodeBlock.addReturns, hc]
      rw [hcons]
      exact .cons (Ne.symm h.1) (ih h.2)

/-- Texts that are the same up to carriage returns can be put behind each other. -/
theorem append (h : Returned cs cs') (h' : Returned ds ds') : Returned (cs ++ ds) (cs' ++ ds') := by
  induction h with
  | nil => exact h'
  | cons hc _ ih => exact .cons hc ih
  | newline _ ih => exact .newline ih

/-- A character that is no carriage return stands at the start of both texts. -/
theorem exists_of_cons (hc : c ≠ '\r') (h : Returned cs (c :: cs')) :
    ∃ ds, cs = c :: ds ∧ Returned ds cs' := by
  cases h with
  | cons _ h => exact ⟨_, rfl, h⟩
  | newline => exact absurd rfl hc

/-- Where the first text is cut in two, the second one is. -/
theorem exists_of_append {text : List Char} (h : Returned (cs ++ ds) text) :
    ∃ cs' ds', text = cs' ++ ds' ∧ Returned cs cs' ∧ Returned ds ds' := by
  induction cs generalizing text with
  | nil => exact ⟨[], text, rfl, .nil, h⟩
  | cons c cs ih =>
    cases h with
    | cons hc h =>
      obtain ⟨cs', ds', rfl, hcs, hds⟩ := ih h
      exact ⟨c :: cs', ds', rfl, .cons hc hcs, hds⟩
    | newline h =>
      obtain ⟨cs', ds', rfl, hcs, hds⟩ := ih h
      exact ⟨'\r' :: '\n' :: cs', ds', rfl, .newline hcs, hds⟩

/-- Beginnings of one text that are the same up to carriage returns are the same. -/
theorem unique_of_append {as as' bs bs' : List Char} (h : Returned cs as) (h' : Returned cs bs)
    (heq : as ++ as' = bs ++ bs') : as = bs := by
  induction h generalizing bs with
  | nil =>
    cases h'
    rfl
  | cons hc h ih =>
    cases h' with
    | cons _ h' => rw [ih h' (List.cons.inj heq).2]
    | newline h' => exact absurd (List.cons.inj heq).1 (by decide)
  | newline h ih =>
    cases h' with
    | cons _ h' => exact absurd (List.cons.inj heq).1 (by decide)
    | newline h' => rw [ih h' (List.cons.inj (List.cons.inj heq).2).2]

/-- The first text is the second one without its carriage returns. -/
theorem dropReturns_eq (h : Returned cs cs') : dropReturns cs' = cs := by
  induction h with
  | nil => rfl
  | @cons c _ _ hc _ ih =>
    rw [dropReturns, ih]
    intro _ hr
    exact absurd hr hc
  | newline _ ih => rw [dropReturns, ih]

/-- On one line there is nothing to choose. -/
theorem eq_of_not_mem (h : Returned cs cs') (hcs : '\n' ∉ cs) : cs' = cs := by
  induction h with
  | nil => rfl
  | cons _ _ ih =>
    simp only [List.mem_cons, not_or] at hcs
    rw [ih hcs.2]
  | newline => simp at hcs

/-- A text gets no shorter with carriage returns. -/
theorem length_le (h : Returned cs cs') : cs.length ≤ cs'.length := by
  induction h with
  | nil => exact Nat.le_refl _
  | cons _ _ ih =>
    rw [List.length_cons, List.length_cons]
    omega
  | newline _ ih =>
    simp only [List.length_cons]
    omega

/-- The texts end in the same character. -/
theorem getLast?_eq (h : Returned cs cs') : cs'.getLast? = cs.getLast? := by
  induction h with
  | nil => rfl
  | cons _ _ ih => rw [List.getLast?_cons, List.getLast?_cons, ih]
  | newline _ ih => rw [List.getLast?_cons_cons, List.getLast?_cons, List.getLast?_cons, ih]

/-- The texts have newlines together. -/
theorem newline_mem_iff (h : Returned cs cs') : '\n' ∈ cs' ↔ '\n' ∈ cs := by
  induction h with
  | nil => rfl
  | cons _ _ ih => simp [ih]
  | newline => simp

/-- Without the carriage returns the texts are the same. -/
theorem withoutPairs_eq {text text' : String} (h : Returned text.toList text'.toList) :
    withoutPairs text' = text := by
  rw [withoutPairs, h.dropReturns_eq, String.ofList_toList]

/-- A text without carriage returns may get one in front of every newline. -/
theorem withReturns {text : String} (h : '\r' ∉ text.toList) :
    Returned text.toList (withReturns text).toList := by
  rw [Transclude.withReturns, String.toList_ofList]
  exact .addReturns h

end Returned

end Transclude
