import Mathlib.Data.Nat.Digits.Defs
import Transclude.Numeral.Integer
import Transclude.Text.Blank

/-!
# Which texts are integers

`IsNumeral n cs` says that the text `cs` is a numeral for the integer `n`: digits of any script,
single underscores between some of them, a sign in front if wanted.  These are just the texts
that are read as `n` (`parseInt_eq_ok_iff`), and the usual text of an integer is one of them
(`isNumeral_toString`).
-/

namespace Transclude.Numeral

/-! ## Digits -/

/-- Digits with these values, single underscores between some of them. -/
inductive DigitRun : List Nat → List Char → Prop where
  | last {c : Char} {d : Nat} (h : digit? c = some d) : DigitRun [d] [c]
  | next {c : Char} {d : Nat} {ds : List Nat} {cs : List Char} (h : digit? c = some d)
    (hrest : DigitRun ds cs) : DigitRun (d :: ds) (c :: cs)
  | spaced {c : Char} {d : Nat} {ds : List Nat} {cs : List Char} (h : digit? c = some d)
    (hrest : DigitRun ds cs) : DigitRun (d :: ds) (c :: '_' :: cs)

/-- An underscore is no digit. -/
private theorem digit?_underscore : digit? '_' = none := by decide

/-- Digits are read to their end, whatever has been read before. -/
theorem DigitRun.readDigits {ds : List Nat} {cs : List Char} (h : DigitRun ds cs)
    (afterDigit : Bool) : readDigits afterDigit cs = some (ds, []) := by
  induction h generalizing afterDigit with
  | last h => simp [Numeral.readDigits, h]
  | next h _ ih => simp [Numeral.readDigits, h, ih]
  | spaced h _ ih => simp [Numeral.readDigits, h, digit?_underscore, ih]

/-- Digits that are read to the end of a text are a run of digits.  Behind a digit they may be
    missing or start with an underscore. -/
theorem digitRun_of_readDigits {afterDigit : Bool} {ds : List Nat} {cs : List Char}
    (h : readDigits afterDigit cs = some (ds, [])) :
    DigitRun ds cs ∨
      afterDigit = true ∧ ((ds = [] ∧ cs = []) ∨ ∃ rest, cs = '_' :: rest ∧ DigitRun ds rest) := by
  -- Whether a digit stands before decides what may come next: the statement covers both.
  induction cs generalizing afterDigit ds with
  | nil =>
    cases afterDigit with
    | false => simp [readDigits] at h
    | true =>
      simp only [readDigits, if_true, Option.some.injEq, Prod.mk.injEq] at h
      exact .inr ⟨rfl, .inl ⟨h.1.symm, rfl⟩⟩
  | cons c cs ih =>
    rw [readDigits] at h
    cases hc : digit? c with
    | some d =>
      simp only [hc, Option.map_eq_some_iff, Prod.mk.injEq] at h
      obtain ⟨⟨more, rest⟩, hmore, rfl, rfl⟩ := h
      left
      -- What is left is a run of its own, or nothing, or a mark and a run.
      rcases ih hmore with hrun | ⟨-, ⟨rfl, rfl⟩ | ⟨rest, rfl, hrun⟩⟩
      · exact .next hc hrun
      · exact .last hc
      · exact .spaced hc hrun
    | none =>
      cases afterDigit with
      -- With no digit in front there has to be one here.
      | false => simp [hc] at h
      | true =>
        simp only [hc, Bool.not_true, Bool.false_eq_true, if_false] at h
        by_cases hunderscore : c = '_'
        · rw [if_pos hunderscore] at h
          rcases ih h with hrun | ⟨hfalse, -⟩
          · exact .inr ⟨rfl, .inr ⟨cs, by rw [hunderscore], hrun⟩⟩
          · cases hfalse
        · simp [if_neg hunderscore] at h

/-- Digits are read exactly from a run of digits. -/
private theorem readDigits_eq_some_iff {ds : List Nat} {cs : List Char} :
    readDigits false cs = some (ds, []) ↔ DigitRun ds cs := by
  constructor
  · intro h
    rcases digitRun_of_readDigits h with hrun | ⟨hfalse, -⟩
    · exact hrun
    · cases hfalse
  · exact fun h => h.readDigits false

/-- The number with some digits is their value in base ten. -/
theorem ofDigits_eq (ds : List Nat) : ofDigits ds = Nat.ofDigits 10 ds.reverse := by
  rw [ofDigits, List.foldl_eq_foldr_reverse, Nat.ofDigits_eq_foldr]
  congr 1
  funext d n
  rw [Nat.cast_id, Nat.add_comm]

/-- A number is read exactly from a run of digits that is not too long. -/
private theorem parseNat_eq_ok_iff {cs : List Char} {n : Nat} :
    parseNat cs = .ok n ↔
      ∃ ds, DigitRun ds cs ∧ ds.length ≤ maxDigits ∧ n = Nat.ofDigits 10 ds.reverse := by
  simp only [← ofDigits_eq, ← readDigits_eq_some_iff]
  unfold parseNat
  cases hread : readDigits false cs with
  | none => simp
  | some result =>
    obtain ⟨ds, rest⟩ := result
    dsimp only
    -- The bound on the digits is tested before the rest of the text is looked at.
    by_cases hlong : maxDigits < ds.length
    · simp only [if_pos hlong, reduceCtorEq, Option.some.injEq, Prod.mk.injEq, false_iff]
      rintro ⟨_, ⟨rfl, -⟩, hle, -⟩
      omega
    · cases rest with
      | nil =>
        simp only [if_neg hlong, List.isEmpty_nil, if_true, Except.ok.injEq, Option.some.injEq,
          Prod.mk.injEq, and_true]
        constructor
        · rintro rfl
          exact ⟨ds, rfl, by omega, rfl⟩
        · rintro ⟨_, rfl, -, rfl⟩
          rfl
      | cons c rest => simp [if_neg hlong]

/-! ## Signs -/

/-- The text is a numeral for the integer. -/
inductive IsNumeral : Int → List Char → Prop where
  | plain {ds : List Nat} {cs : List Char} (h : DigitRun ds cs) (hlength : ds.length ≤ maxDigits) :
    IsNumeral (Nat.ofDigits 10 ds.reverse : Nat) cs
  | plus {ds : List Nat} {cs : List Char} (h : DigitRun ds cs) (hlength : ds.length ≤ maxDigits) :
    IsNumeral (Nat.ofDigits 10 ds.reverse : Nat) ('+' :: cs)
  | minus {ds : List Nat} {cs : List Char} (h : DigitRun ds cs) (hlength : ds.length ≤ maxDigits) :
    IsNumeral (-(Nat.ofDigits 10 ds.reverse : Nat)) ('-' :: cs)

/-- A run of digits starts with a digit. -/
theorem DigitRun.exists_cons {ds : List Nat} {cs : List Char} (h : DigitRun ds cs) :
    ∃ c rest d, cs = c :: rest ∧ digit? c = some d := by
  cases h with
  | last h => exact ⟨_, _, _, rfl, h⟩
  | next h _ => exact ⟨_, _, _, rfl, h⟩
  | spaced h _ => exact ⟨_, _, _, rfl, h⟩

/-- A number with a sign is read if the number is. -/
private theorem map_eq_ok_iff {r : Except IntegerFault Nat} {f : Int → Int} {n : Int} :
    (do return ((← r) : Int) : Except IntegerFault Int).map f = .ok n ↔
      ∃ k : Nat, r = .ok k ∧ f k = n := by
  cases r <;> simp [Except.map, bind, Except.bind, pure, Except.pure]

/-- Without a sign a text is read as a natural number. -/
theorem parseInt_of_digit {c : Char} {rest : List Char} {d : Nat} (h : digit? c = some d) :
    parseInt (c :: rest) = (parseNat (c :: rest)).map fun n => (n : Int) := by
  -- A digit is neither of the signs.
  have hminus : c ≠ '-' := by
    rintro rfl
    rw [show digit? '-' = none by decide] at h
    cases h
  have hplus : c ≠ '+' := by
    rintro rfl
    rw [show digit? '+' = none by decide] at h
    cases h
  simp [parseInt, hminus, hplus]

/-- Just the numerals for an integer are read as this integer. -/
theorem parseInt_eq_ok_iff {cs : List Char} {n : Int} : parseInt cs = .ok n ↔ IsNumeral n cs := by
  constructor
  · intro h
    unfold parseInt at h
    split at h
    all_goals
      obtain ⟨k, hk, rfl⟩ := map_eq_ok_iff.1 h
      obtain ⟨ds, hrun, hlength, rfl⟩ := parseNat_eq_ok_iff.1 hk
    · exact .minus hrun hlength
    · exact .plus hrun hlength
    · exact .plain hrun hlength
  · intro h
    -- The first character tells which of the three branches is taken.
    cases h with
    | plain hrun hlength =>
      obtain ⟨c, rest, d, rfl, hd⟩ := hrun.exists_cons
      rw [parseInt_of_digit hd, parseNat_eq_ok_iff.2 ⟨_, hrun, hlength, rfl⟩]
      rfl
    | plus hrun hlength =>
      rw [parseInt, parseNat_eq_ok_iff.2 ⟨_, hrun, hlength, rfl⟩]
      rfl
    | minus hrun hlength =>
      rw [parseInt, parseNat_eq_ok_iff.2 ⟨_, hrun, hlength, rfl⟩]
      rfl

/-! ## Characters -/

/-- Digits are no blanks. -/
theorem isBlank_of_digit? {c : Char} {d : Nat} (h : digit? c = some d) :
    Text.isBlank c = false := by
  obtain ⟨z, hz, -⟩ := Option.map_eq_some_iff.1 h
  have hbounds := List.find?_some hz
  simp only [Bool.and_eq_true, decide_eq_true_eq] at hbounds
  -- Every digit stands in a run of ten, and all runs can be looked at.
  have hruns : ∀ z ∈ zeros, ∀ i < 10, Text.isBlank (Char.ofNat (z + i)) = false := by
    decide +kernel
  have hc := hruns z (List.mem_of_find?_eq_some hz) (c.toNat - z) (by omega)
  rwa [show z + (c.toNat - z) = c.toNat by omega, Char.ofNat_toNat] at hc

/-- The characters that a numeral may hold. -/
def isNumeralChar (c : Char) : Bool := (digit? c).isSome || c = '_' || c = '+' || c = '-'

/-- A numeral holds no blanks. -/
theorem isBlank_of_isNumeralChar {c : Char} (h : isNumeralChar c = true) :
    Text.isBlank c = false := by
  simp only [isNumeralChar, Bool.or_eq_true, decide_eq_true_eq] at h
  rcases h with ((h | rfl) | rfl) | rfl
  · obtain ⟨d, hd⟩ := Option.isSome_iff_exists.1 h
    exact isBlank_of_digit? hd
  all_goals decide

/-- A run of digits holds nothing but what a numeral may hold. -/
private theorem DigitRun.isNumeralChar {ds : List Nat} {cs : List Char} (h : DigitRun ds cs) :
    ∀ c ∈ cs, isNumeralChar c = true := by
  induction h with
  | last h => simp [Numeral.isNumeralChar, h]
  | next h _ ih => simpa [Numeral.isNumeralChar, h] using ih
  | spaced h _ ih => simpa [Numeral.isNumeralChar, h] using ih

/-- A numeral holds nothing but what it may hold. -/
theorem IsNumeral.isNumeralChar {n : Int} {cs : List Char} (h : IsNumeral n cs) :
    ∀ c ∈ cs, isNumeralChar c = true := by
  cases h with
  | plain hrun => exact hrun.isNumeralChar
  | plus hrun => exact List.forall_mem_cons.2 ⟨rfl, hrun.isNumeralChar⟩
  | minus hrun => exact List.forall_mem_cons.2 ⟨rfl, hrun.isNumeralChar⟩

/-! ## The usual text of an integer -/

/-- The character of a digit is read as that digit. -/
private theorem digit?_digitChar {d : Nat} (h : d < 10) : digit? (Nat.digitChar d) = some d := by
  revert d
  decide

/-- A run of digits may go on with another digit. -/
private theorem DigitRun.concat {ds : List Nat} {cs : List Char} (h : DigitRun ds cs)
    {c : Char} {d : Nat}
    (hc : digit? c = some d) : DigitRun (ds ++ [d]) (cs ++ [c]) := by
  induction h with
  | last h => exact .next h (.last hc)
  | next h _ ih => exact .next h ih
  | spaced h _ ih => exact .spaced h ih

/-- A natural number is written with the digits of its value. -/
theorem digitRun_toDigits (n : Nat) :
    ∃ ds, DigitRun ds (Nat.toDigits 10 n) ∧ ds.length = (Nat.toDigits 10 n).length ∧
      Nat.ofDigits 10 ds.reverse = n := by
  induction n using Nat.strongRecOn with
  | ind n ih =>
    -- The digits of a tenth of the number come first, by the induction.
    rcases Nat.lt_or_ge n 10 with h | h
    · rw [Nat.toDigits_of_lt_base h]
      exact ⟨[n], .last (digit?_digitChar h), rfl, by simp⟩
    · obtain ⟨ds, hrun, hlength, hvalue⟩ := ih (n / 10) (by omega)
      have hlast : n % 10 < 10 := Nat.mod_lt _ (by decide)
      rw [Nat.toDigits_of_base_le (by decide) h]
      refine ⟨ds ++ [n % 10], hrun.concat (digit?_digitChar hlast), by simp [hlength], ?_⟩
      rw [List.reverse_append, List.reverse_singleton, List.singleton_append, Nat.ofDigits_cons,
        hvalue]
      exact Nat.mod_add_div n 10

/-- An integer without too many digits is written as its usual text. -/
theorem isNumeral_toString {n : Int} (h : n.natAbs < 10 ^ maxDigits) :
    IsNumeral n (toString n).toList := by
  obtain ⟨ds, hrun, hlength, hvalue⟩ := digitRun_toDigits n.natAbs
  -- A number below the power of ten has no more digits than the bound.
  have hle : ds.length ≤ maxDigits := by
    rw [hlength]
    exact (Nat.length_toDigits_le_iff (by decide) (by decide)).2 h
  rw [Int.toString_eq_repr]
  cases n with
  | ofNat k =>
    have hplain := IsNumeral.plain hrun hle
    rw [hvalue] at hplain
    simpa [Int.repr, Nat.repr_eq_ofList_toDigits] using hplain
  | negSucc k =>
    have hminus := IsNumeral.minus hrun hle
    rw [hvalue, Int.natAbs_negSucc] at hminus
    simp only [Int.repr, Nat.repr_eq_ofList_toDigits, String.toList_append, String.toList_ofList]
    exact hminus

end Transclude.Numeral
