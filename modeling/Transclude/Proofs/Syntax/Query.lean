import Transclude.Syntax.Query

/-!
# What a query finds

Where the nodes that patterns ask for are the only ones that fit, the patterns are found in one way
(`waysInTurn_of_fit`).  Where one pattern fits nowhere, they are not found at all
(`waysInTurn_eq_nil`).
-/

namespace Transclude.Syntax

variable {p : Pattern} {ps : List Pattern} {l : Located} {ls before after : List Located}
  {captures : Captures} {α β : Type}

/-! ## Choosing -/

/-- What leads nowhere at the start may be left out. -/
private theorem choose_append {f : α → List α → List β} {as bs : List α}
    (h : ∀ a ∈ as, ∀ rest, f a rest = []) : choose f (as ++ bs) = choose f bs := by
  induction as with
  | nil => rfl
  | cons a as ih =>
    rw [List.cons_append, choose, h a List.mem_cons_self, List.nil_append]
    exact ih fun a' ha' => h a' (List.mem_cons_of_mem a ha')

/-- Nothing is chosen if nothing leads anywhere. -/
private theorem choose_eq_nil {f : α → List α → List β} {as : List α}
    (h : ∀ a rest, a :: rest <:+ as → f a rest = []) : choose f as = [] := by
  induction as with
  | nil => rfl
  | cons a as ih =>
    rw [choose, h a as (List.suffix_refl _), List.nil_append]
    exact ih fun a' rest hsuffix => h a' rest (hsuffix.trans (List.suffix_cons a as))

/-! ## Patterns in turn -/

/-- No patterns fit in one way. -/
theorem waysInTurn_nil (ls : List Located) : waysInTurn [] ls = [[]] := by
  rw [waysInTurn]

/-- A pattern that fits one node only is found there, and the others behind it. -/
private theorem waysInTurn_cons_of_unique (hbefore : ∀ l ∈ before, p.ways l = [])
    (hafter : ∀ l ∈ after, p.ways l = []) :
    waysInTurn (p :: ps) (before ++ l :: after) =
      (p.ways l).flatMap fun way => (waysInTurn ps after).map (way ++ ·) := by
  -- Nothing behind the node is found again.
  have hnone : ∀ l rest, l :: rest <:+ after →
      ((p.ways l).flatMap fun way => (waysInTurn ps rest).map (way ++ ·)) = [] := by
    intro l rest hsuffix
    rw [hafter l (hsuffix.subset List.mem_cons_self), List.flatMap_nil]
  rw [waysInTurn, choose_append fun l hl rest => by rw [hbefore l hl, List.flatMap_nil], choose,
    choose_eq_nil hnone, List.append_nil]

/-- Patterns are not found in turn if one of them fits nowhere. -/
theorem waysInTurn_eq_nil (hp : p ∈ ps) (h : ∀ l ∈ ls, p.ways l = []) : waysInTurn ps ls = [] := by
  induction ps generalizing ls with
  | nil => cases hp
  -- The first pattern takes one of the nodes, and the rest take some behind it.
  | cons first ps ih =>
    rw [waysInTurn]
    refine choose_eq_nil fun l rest hsuffix => ?_
    rcases List.mem_cons.1 hp with rfl | hp
    · rw [h l (hsuffix.subset List.mem_cons_self), List.flatMap_nil]
    · -- Wherever the first one is found, the other is not found behind it.
      have hrest : waysInTurn ps rest = [] :=
        ih hp fun l' hl' => h l' (hsuffix.subset (List.mem_cons_of_mem l hl'))
      rw [hrest]
      exact List.flatMap_eq_nil_iff.2 fun way _ => rfl

/-- The nodes that some patterns fit in turn, one for each, and what is captured there. -/
inductive Fit : List Pattern → List Located → Captures → Prop where
  | nil : Fit [] [] []
  | cons {p l way ps ls captures} (hway : p.ways l = [way]) (hunique : ∀ l' ∈ ls, p.ways l' = [])
    (hrest : Fit ps ls captures) : Fit (p :: ps) (l :: ls) (way ++ captures)

/-- Patterns that fit certain nodes only, each of them one, are found in one way. -/
theorem waysInTurn_of_fit (certain : Located → Bool)
    (hcertain : ∀ p ∈ ps, ∀ l, certain l = false → p.ways l = [])
    (h : Fit ps (ls.filter certain) captures) : waysInTurn ps ls = [captures] := by
  -- Nodes that are not certain fit none of the patterns, so they are passed over.
  generalize hnodes : ls.filter certain = nodes at h
  induction h generalizing ls with
  | nil => exact waysInTurn_nil ls
  | @cons p l way ps nodes captures hway hunique hrest ih =>
    obtain ⟨before, after, rfl, hbefore, -, rfl⟩ := List.filter_eq_cons_iff.1 hnodes
    have hp := hcertain p List.mem_cons_self
    -- Nothing behind the node fits the same pattern.
    have hafter : ∀ l' ∈ after, p.ways l' = [] := by
      intro l' hl'
      cases hl : certain l' with
      | false => exact hp l' hl
      | true => exact hunique l' (List.mem_filter.2 ⟨hl', hl⟩)
    rw [waysInTurn_cons_of_unique
      (fun l' hl' => hp l' (Bool.eq_false_iff.2 (hbefore l' hl'))) hafter,
      hway, ih (fun p hp => hcertain p (List.mem_cons_of_mem _ hp)) rfl]
    rfl

end Transclude.Syntax
