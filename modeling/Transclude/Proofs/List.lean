import Mathlib.Data.List.Chain
import Mathlib.Data.List.Forall2

/-!
# Parts of a list

Ranges that follow each other cut a list in parts (`flatten_extract`), and a list is related entry
by entry to what its chosen entries yield (`forall₂_filter_filterMap`).  What holds of any two
entries carries over to what they are related to (`forall₂_pairwise`), and a sorted list in which no
two entries are equal is what sorting its entries gives (`mergeSort_eq`).
-/

namespace Transclude

/-! ## Ranges -/

/-- What is cut out, with the rest behind it, is the rest from where the cut starts. -/
private theorem extract_append_drop {α : Type} (xs : List α) {start stop : Nat} (h : start ≤ stop) :
    xs.extract start stop ++ xs.drop stop = xs.drop start := by
  have hdrop : xs.drop stop = (xs.drop start).drop (stop - start) := by
    rw [List.drop_drop, Nat.add_sub_cancel' h]
  rw [hdrop, List.extract_eq_take_drop, List.take_append_drop]

/-- A range cuts a list in three. -/
theorem extract_spec {α : Type} {xs : List α} {start stop : Nat} (hle : start ≤ stop)
    (hstop : stop ≤ xs.length) :
    xs = xs.take start ++ (xs.extract start stop ++ xs.drop stop) ∧
      start = (xs.take start).length ∧
      stop = (xs.take start).length + (xs.extract start stop).length := by
  refine ⟨?_, ?_, ?_⟩
  · rw [extract_append_drop xs hle, List.take_append_drop]
  · rw [List.length_take]
    omega
  · rw [List.extract_eq_take_drop, List.length_take, List.length_take, List.length_drop]
    omega

/-- Ranges that follow each other up to the end cut a list in parts. -/
theorem flatten_extract {α : Type} {xs : List α} {start : Nat} {bounds : List Nat}
    (hchain : (start :: bounds).IsChain (· < ·))
    (hlast : (start :: bounds).getLast (List.cons_ne_nil _ _) = xs.length) :
    start ≤ xs.length ∧
      (((start :: bounds).zip bounds).map fun range => xs.extract range.1 range.2).flatten =
        xs.drop start ∧
      ∀ range ∈ (start :: bounds).zip bounds, range.1 < range.2 ∧ range.2 ≤ xs.length := by
  -- The induction is on the bounds; the start moves on with it.
  induction bounds generalizing start with
  | nil =>
    obtain rfl : start = xs.length := hlast
    simp
  | cons next bounds ih =>
    obtain ⟨hlt, hchain⟩ := List.isChain_cons_cons.1 hchain
    obtain ⟨hle, hflatten, hranges⟩ := ih hchain (by simpa using hlast)
    refine ⟨by omega, ?_, ?_⟩
    -- The first range goes from the start to the next bound.
    · rw [List.zip_cons_cons, List.map_cons, List.flatten_cons, hflatten]
      exact extract_append_drop xs (Nat.le_of_lt hlt)
    · rw [List.zip_cons_cons]
      exact List.forall_mem_cons.2 ⟨⟨hlt, hle⟩, hranges⟩

/-! ## Chosen entries -/

/-- What is related entry by entry, where the entries of one list are chosen by what they yield. -/
theorem forall₂_filter_filterMap {α β : Type} {p : α → Prop} [DecidablePred p] {f : α → Option β}
    {R : α → β → Prop} {l : List α}
    (h : ∀ a ∈ l, p a ∧ (∃ b, f a = some b ∧ R a b) ∨ ¬ p a ∧ f a = none) :
    List.Forall₂ R (l.filter p) (l.filterMap f) := by
  induction l with
  | nil => exact .nil
  | cons a l ih =>
    have ih := ih fun a' ha' => h a' (List.mem_cons_of_mem _ ha')
    -- An element is kept and has an image, or neither.
    rcases h a List.mem_cons_self with ⟨hp, b, hb, hR⟩ | ⟨hp, hnone⟩
    · rw [List.filter_cons_of_pos (by simpa using hp), List.filterMap_cons_some hb]
      exact .cons hR ih
    · rwa [List.filter_cons_of_neg (by simpa using hp), List.filterMap_cons_none hnone]

/-- Every element on the right has a partner on the left. -/
theorem exists_of_mem_right {α β : Type} {R : α → β → Prop} {as : List α} {bs : List β} {b : β}
    (h : List.Forall₂ R as bs) (hb : b ∈ bs) : ∃ a ∈ as, R a b := by
  induction h with
  | nil => cases hb
  | @cons a b' as bs hab hrest ih =>
    rcases List.mem_cons.1 hb with rfl | hb
    · exact ⟨a, List.mem_cons_self, hab⟩
    · obtain ⟨a', ha', hab'⟩ := ih hb
      exact ⟨a', List.mem_cons_of_mem a ha', hab'⟩

/-- Every element on the left has a partner on the right. -/
theorem exists_of_mem_left {α β : Type} {R : α → β → Prop} {as : List α} {bs : List β} {a : α}
    (h : List.Forall₂ R as bs) (ha : a ∈ as) : ∃ b ∈ bs, R a b := by
  have hflip : List.Forall₂ (fun b a => R a b) bs as := h.flip
  exact exists_of_mem_right hflip ha

/-- Lists that are related to one list element by element are related to each other. -/
theorem forall₂_of_common {α β γ : Type} {R : α → β → Prop} {S : α → γ → Prop} {as : List α}
    {bs : List β} {cs : List γ} (h : List.Forall₂ R as bs) (h' : List.Forall₂ S as cs) :
    List.Forall₂ (fun b c => ∃ a ∈ as, R a b ∧ S a c) bs cs := by
  -- The induction is on the one relation; the other one is taken apart along with it.
  induction h generalizing cs with
  | nil =>
    cases h'
    exact .nil
  | @cons a b as bs hab _ ih =>
    cases h' with
    | cons hac hrest =>
      refine .cons ⟨a, List.mem_cons_self, hab, hac⟩ ((ih hrest).imp ?_)
      rintro b' c' ⟨a', ha', hb', hc'⟩
      exact ⟨a', List.mem_cons_of_mem a ha', hb', hc'⟩

/-- What is found first in a list is related to what is found first in a related list. -/
theorem exists_find?_of_forall₂ {α β : Type} {R : α → β → Prop} {p : α → Bool} {q : β → Bool}
    {as : List α} {bs : List β} {a : α} (h : List.Forall₂ R as bs)
    (hpq : ∀ {a b}, R a b → q b = p a)
    (ha : as.find? p = some a) : ∃ b, bs.find? q = some b ∧ R a b := by
  induction h with
  | nil => cases ha
  | @cons a' b' as bs hab _ ih =>
    -- The related element passes the test exactly when this one does.
    rw [List.find?_cons] at ha ⊢
    rw [hpq hab]
    cases hp : p a' with
    | true =>
      rw [hp] at ha
      cases ha
      exact ⟨b', rfl, hab⟩
    | false =>
      rw [hp] at ha
      exact ih ha

/-- What holds of any two entries holds of what they are related to. -/
theorem forall₂_pairwise {α β : Type} {R : α → β → Prop} {S : α → α → Prop} {T : β → β → Prop}
    {as : List α} {bs : List β} (h : List.Forall₂ R as bs) (hS : as.Pairwise S)
    (hT : ∀ {a a' b b'}, R a b → R a' b' → S a a' → T b b') : bs.Pairwise T := by
  induction h with
  | nil => exact .nil
  | @cons a b as bs hab hrest ih =>
    obtain ⟨ha, has⟩ := List.pairwise_cons.1 hS
    refine .cons (fun b' hb' => ?_) (ih has)
    -- What stands behind in the one list stands behind in the other.
    obtain ⟨a', ha', hab'⟩ := exists_of_mem_right hrest hb'
    exact hT hab hab' (ha a' ha')

/-! ## Sorting -/

/-- Entries of a sorted list in the same place are the same. -/
private theorem eq_of_pairwise_lt {α : Type} {f : α → Nat} {as : List α} {a b : α}
    (h : as.Pairwise fun a b => f a < f b) (ha : a ∈ as) (hb : b ∈ as) (heq : f a = f b) :
    a = b := by
  induction h with
  | nil => cases ha
  | @cons c as hc has ih =>
    -- Two different places of the list have different values.
    rcases List.mem_cons.1 ha with hac | ha <;> rcases List.mem_cons.1 hb with hbc | hb
    · exact hac.trans hbc.symm
    · exact absurd (hc b hb) (by rw [← hac]; omega)
    · exact absurd (hc a ha) (by rw [← hbc]; omega)
    · exact ih ha hb

/-- Sorting puts the entries in order. -/
theorem pairwise_mergeSort {α : Type} (f : α → Nat) (as : List α) :
    (as.mergeSort fun a b => f a ≤ f b).Pairwise fun a b => f a ≤ f b := by
  have hsorted : (as.mergeSort fun a b => decide (f a ≤ f b)).Pairwise
      fun a b => decide (f a ≤ f b) = true := by
    refine List.pairwise_mergeSort ?_ ?_ as
    · simp only [decide_eq_true_eq]
      omega
    · simp only [Bool.or_eq_true, decide_eq_true_eq]
      omega
  exact hsorted.imp of_decide_eq_true

/-- A list that is sorted is what comes out when its entries are sorted. -/
theorem mergeSort_eq {α : Type} {f : α → Nat} {as bs : List α} (hperm : as.Perm bs)
    (hsorted : bs.Pairwise fun a b => f a < f b) : as.mergeSort (fun a b => f a ≤ f b) = bs := by
  have hperm : (as.mergeSort fun a b => decide (f a ≤ f b)).Perm bs :=
    (List.mergeSort_perm as _).trans hperm
  refine List.Perm.eq_of_pairwise (fun a b ha hb hab hba => ?_) (pairwise_mergeSort f as)
    (hsorted.imp Nat.le_of_lt) hperm
  exact eq_of_pairwise_lt hsorted (hperm.mem_iff.1 ha) hb (Nat.le_antisymm hab hba)

end Transclude
