/-! # Finding a word in a text

`findWord word cs` cuts `cs` at the first occurrence of `word`: what stands
before it, and what stands behind. -/

namespace Transclude.Text

/-- What stands before and behind the first occurrence of `word`. -/
def findWord (word : List Char) : List Char → Option (List Char × List Char)
  | [] => if word.isEmpty then some ([], []) else none
  | c :: cs =>
    if word.isPrefixOf (c :: cs) then some ([], (c :: cs).drop word.length)
    else (findWord word cs).map fun (before, behind) => (c :: before, behind)

/-- The pieces around an occurrence, put back together, are the text. -/
theorem eq_of_findWord {word cs before behind : List Char}
    (h : findWord word cs = some (before, behind)) : cs = before ++ word ++ behind := by
  induction cs generalizing before with
  | nil =>
    simp only [findWord] at h
    split at h <;> simp_all
  | cons c cs ih =>
    simp only [findWord] at h
    split at h
    · rename_i hp
      simp only [Option.some.injEq, Prod.mk.injEq] at h
      obtain ⟨rfl, rfl⟩ := h
      obtain ⟨t, ht⟩ := List.isPrefixOf_iff_prefix.1 hp
      simp [← ht]
    · obtain ⟨⟨b, r⟩, hb, he⟩ := Option.map_eq_some_iff.1 h
      simp only [Prod.mk.injEq] at he
      obtain ⟨rfl, rfl⟩ := he
      simp [ih hb]

/-- `cs` with the first occurrence of `word` replaced. -/
def replaceFirst (word replacement cs : List Char) : List Char :=
  match findWord word cs with
  | some (before, behind) => before ++ replacement ++ behind
  | none => cs

/-- `word` occurs in `cs`. -/
def contains (word cs : List Char) : Bool := (findWord word cs).isSome

end Transclude.Text
