import Mathlib.Data.List.Chain
import Mathlib.Data.List.Nodup
import Mathlib.Logic.Relation
import Transclude.Failure.Trail
import Transclude.Proofs.List
import Transclude.Proofs.Text.Headline

/-!
# What a trail tells

The walk from an error comes to an end whatever the links are, circles among them: every step
leaves fewer errors that have not been visited (`length_walk_le`).  It visits what can be reached
from the error, once each (`mem_walk_iff`), and no other list of errors is a walk from there
(`isWalk_iff`).

What is told of the walk are the headlines of the errors that it visits, and the hint is the
headline of the last one that is not blank (`reported_of_lt`).

## Key results

- `mem_walk_of_follows`: the walk stops only where there is nothing new to go to.  It is an
  induction along the walk, where the errors that were visited before stay a side condition.
- `walk_eq_of_isChain`: any way along the links that visits nothing twice and stops only there is
  the walk.
-/

namespace Transclude.Trail

variable {trail : Trail} {seen places rest : List Nat} {place : Option Nat} {start i j : Nat}

/-! ## Links -/

/-- Error `j` stands behind error `i`: it is the cause of `i`, or the context of `i` if no cause is
    set. -/
def Follows (trail : Trail) (i j : Nat) : Prop :=
  j < trail.size ∧ ∃ link, trail[i]? = some link ∧
    (link.cause = some j ∨ link.cause = none ∧ link.context = some j)

/-- The next place of a failure in a trail. -/
private theorem follows_iff (hi : i < trail.size) :
    trail.Follows i j ↔ j < trail.size ∧ trail[i].next = some j := by
  simp only [Follows, Link.next, Option.or_eq_some_iff, Array.getElem?_eq_getElem hi,
    Option.some.injEq, exists_eq_left']

/-! ## The walk -/

/-- There is no way from nowhere. -/
private theorem walk_none : trail.walk seen none = [] := by
  rw [walk]

/-- An error that has not been visited is visited. -/
theorem walk_some (hi : i < trail.size) (hseen : i ∉ seen) :
    trail.walk seen (some i) = i :: trail.walk (i :: seen) trail[i].next := by
  rw [walk, dif_pos ⟨hi, hseen⟩]

/-- The walk is over at an error that has been visited, and where there is no error. -/
theorem walk_some_eq_nil (h : i < trail.size → i ∈ seen) : trail.walk seen (some i) = [] := by
  rw [walk, dif_neg]
  intro hi
  exact hi.2 (h hi.1)

/-- A walk is no longer than there are errors left to visit. -/
theorem length_walk_le (trail : Trail) (seen : List Nat) (place : Option Nat) :
    (trail.walk seen place).length ≤ (trail.unseen seen).length := by
  fun_induction walk trail seen place with
  | case1 => exact Nat.zero_le _
  | case2 seen i h ih =>
    have hfewer := length_unseen_cons_lt h.1 h.2
    rw [List.length_cons]
    omega
  | case3 => exact Nat.zero_le _

/-- A walk visits errors of the trail that had not been visited. -/
theorem lt_size_of_mem_walk (h : j ∈ trail.walk seen place) : j < trail.size ∧ j ∉ seen := by
  fun_induction walk trail seen place with
  | case1 => cases h
  | case2 seen i hi ih =>
    cases List.mem_cons.1 h with
    | inl hj =>
      rw [hj]
      exact hi
    | inr hj =>
      obtain ⟨hlt, hnot⟩ := ih hj
      exact ⟨hlt, fun hseen => hnot (List.mem_cons_of_mem i hseen)⟩
  | case3 => cases h

/-- No place is visited twice. -/
private theorem nodup_walk (trail : Trail) (seen : List Nat) (place : Option Nat) :
    (trail.walk seen place).Nodup := by
  fun_induction walk trail seen place with
  | case1 => exact List.nodup_nil
  | case2 seen i h ih =>
    rw [List.nodup_cons]
    exact ⟨fun hmem => (lt_size_of_mem_walk hmem).2 List.mem_cons_self, ih⟩
  | case3 => exact List.nodup_nil

/-- A walk begins where it is told to. -/
theorem eq_some_of_head?_walk (h : j ∈ (trail.walk seen place).head?) : place = some j := by
  fun_induction walk trail seen place with
  | case1 => cases h
  | case2 seen i hi ih => exact h
  | case3 => cases h

/-- Each place of a way is the next one of the place before. -/
private theorem isChain_walk (trail : Trail) (seen : List Nat) (place : Option Nat) :
    (trail.walk seen place).IsChain trail.Follows := by
  fun_induction walk trail seen place with
  | case1 => exact .nil
  | case2 seen i h ih =>
    rw [List.isChain_cons]
    refine ⟨fun j hj => ?_, ih⟩
    have hlt := (lt_size_of_mem_walk (List.mem_of_mem_head? hj)).1
    exact (follows_iff h.1).2 ⟨hlt, eq_some_of_head?_walk hj⟩
  | case3 => exact .nil

/-- What follows an error on the walk is on the walk, or was visited before. -/
theorem mem_walk_of_follows (h : i ∈ trail.walk seen place) (hfollows : trail.Follows i j) :
    j ∈ seen ∨ j ∈ trail.walk seen place := by
  fun_induction walk trail seen place with
  | case1 => cases h
  | case2 seen k hk ih =>
    -- Whatever is visited from here on counts `k` among the errors visited before.
    have hbehind : j ∈ k :: seen ∨ j ∈ trail.walk (k :: seen) trail[k].next := by
      cases List.mem_cons.1 h with
      | inl hi =>
        subst hi
        obtain ⟨hlt, hnext⟩ := (follows_iff hk.1).1 hfollows
        by_cases hj : j ∈ i :: seen
        · exact .inl hj
        · rw [hnext, walk_some hlt hj]
          exact .inr List.mem_cons_self
      | inr hi => exact ih hi
    simp only [List.mem_cons] at hbehind ⊢
    tauto
  | case3 => cases h

/-! ## Walks from an error -/

/-- The errors from `start` on, each one behind the one before it, up to the first one that would
    come a second time. -/
structure IsWalk (trail : Trail) (start : Nat) (places : List Nat) : Prop where
  head?_eq : places.head? = some start
  isChain : places.IsChain trail.Follows
  nodup : places.Nodup
  /-- At its end there is nothing new to go to. -/
  stops : ∀ i ∈ places.getLast?, ∀ j, trail.Follows i j → j ∈ places

/-- A way from a place in the trail is a walk. -/
private theorem isWalk_walk (h : start < trail.size) :
    trail.IsWalk start (trail.walk [] (some start)) := by
  constructor
  case head?_eq => rw [walk_some h List.not_mem_nil, List.head?_cons]
  case isChain => exact isChain_walk trail [] (some start)
  case nodup => exact nodup_walk trail [] (some start)
  case stops =>
    intro i hi j hfollows
    have hmem := mem_walk_of_follows (List.mem_of_getLast? hi) hfollows
    simpa using hmem

/-- A way along the links that visits nothing twice, and stops only where there is nothing new to
    go to, is the walk. -/
theorem walk_eq_of_isChain (hstart : start < trail.size)
    (hchain : (start :: rest).IsChain trail.Follows) (hnodup : (start :: rest).Nodup)
    (hseen : ∀ i ∈ start :: rest, i ∉ seen)
    (hstops : ∀ i ∈ (start :: rest).getLast?, ∀ j, trail.Follows i j →
      j ∈ seen ∨ j ∈ start :: rest) :
    trail.walk seen (some start) = start :: rest := by
  rw [walk_some hstart (hseen start List.mem_cons_self)]
  rw [List.cons_inj_right]
  induction rest generalizing start seen with
  | nil =>
    cases hnext : trail[start].next with
    | none => exact walk_none
    | some j =>
      apply walk_some_eq_nil
      intro hj
      have hmem := hstops start rfl j ((follows_iff hstart).2 ⟨hj, hnext⟩)
      simpa [or_comm] using hmem
  | cons second rest ih =>
    obtain ⟨hfollows, hchain⟩ := List.isChain_cons_cons.1 hchain
    obtain ⟨hlt, hnext⟩ := (follows_iff hstart).1 hfollows
    obtain ⟨hnot, hnodup⟩ := List.nodup_cons.1 hnodup
    -- The rest is a walk for which `start` has been visited.
    have hfresh : ∀ i ∈ second :: rest, i ∉ start :: seen := by
      intro i hi hmem
      cases List.mem_cons.1 hmem with
      | inl he => exact hnot (he ▸ hi)
      | inr hmem => exact hseen i (List.mem_cons_of_mem start hi) hmem
    have hstops' : ∀ i ∈ (second :: rest).getLast?, ∀ j, trail.Follows i j →
        j ∈ start :: seen ∨ j ∈ second :: rest := by
      intro i hi j hfollows
      have hmem := hstops i (by rwa [List.getLast?_cons_cons]) j hfollows
      simp only [List.mem_cons] at hmem ⊢
      tauto
    rw [hnext, walk_some hlt (hfresh second List.mem_cons_self),
      ih hlt hchain hnodup hfresh hstops']

/-- There is one walk from an error. -/
theorem isWalk_iff (h : start < trail.size) :
    trail.IsWalk start places ↔ places = trail.walk [] (some start) := by
  constructor
  · intro hwalk
    obtain ⟨rest, rfl⟩ := List.head?_eq_some_iff.1 hwalk.head?_eq
    symm
    apply walk_eq_of_isChain h hwalk.isChain hwalk.nodup
    · intro i _
      exact List.not_mem_nil
    · intro i hi j hfollows
      exact .inr (hwalk.stops i hi j hfollows)
  · rintro rfl
    exact isWalk_walk h

/-- The walk visits whatever can be reached. -/
theorem mem_walk_iff (h : start < trail.size) :
    i ∈ trail.walk [] (some start) ↔ Relation.ReflTransGen trail.Follows start i := by
  have hwalk := isWalk_walk h
  constructor
  -- Going along the walk, every place is reached from the start.
  · apply hwalk.isChain.induction
    · intro j k hfollows hj
      exact hj.tail hfollows
    · intro hne
      have hhead := hwalk.head?_eq
      rw [List.head?_eq_some_head hne, Option.some.injEq] at hhead
      rw [hhead]
  · intro hreach
    -- What is reached is on the walk: with a place its next one is.
    induction hreach with
    | refl => exact List.mem_of_mem_head? hwalk.head?_eq
    | tail _ hfollows ih =>
      have hmem := mem_walk_of_follows ih hfollows
      simpa using hmem

/-! ## What is told -/

/-- The text of an error. -/
def textAt (trail : Trail) (i : Nat) : String := (trail[i]?.map Link.text).getD ""

/-- The messages are the first lines of the places on the way. -/
private theorem messages_eq (trail : Trail) (start : Nat) :
    trail.messages start =
      (trail.walk [] (some start)).filterMap fun i => Text.firstLine (trail.textAt i) := by
  have hempty : Text.firstLine "" = none := Text.firstLine_eq_none_iff.2 (by simp [Text.Blank])
  unfold messages
  apply List.filterMap_congr
  intro i _
  cases hi : trail[i]? with
  | none => simp [textAt, hi, hempty]
  | some link => simp [textAt, hi]

/-- The last message is that of the last error that is not blank. -/
theorem getLast?_told_iff {line : String} :
    (places.filterMap fun i => Text.firstLine (trail.textAt i)).getLast? = some line ↔
      ∃ front i back, places = front ++ i :: back ∧ Text.Headline (trail.textAt i) line ∧
        ∀ j ∈ back, Text.Blank (trail.textAt j) := by
  rw [List.getLast?_filterMap, List.findSome?_eq_some_iff]
  simp only [Text.firstLine_eq_some_iff, Text.firstLine_eq_none_iff, List.reverse_eq_iff]
  constructor
  · intro h
    obtain ⟨back, i, front, hsplit, hheadline, hblank⟩ := h
    exact ⟨front.reverse, i, back.reverse, by simp [hsplit], hheadline, by simpa using hblank⟩
  · intro h
    obtain ⟨front, i, back, hsplit, hheadline, hblank⟩ := h
    exact ⟨back.reverse, i, front.reverse, by simp [hsplit], hheadline, by simpa using hblank⟩

/-- What is told of the walk from an error. -/
structure Reported (trail : Trail) (start : Nat) (visited : List Nat) (messages : List String)
    (hint : Option String) : Prop where
  /-- The errors that are visited are the only walk. -/
  isWalk_iff : ∀ places, trail.IsWalk start places ↔ places = visited
  length_le : visited.length ≤ trail.size
  mem_iff : ∀ i, i ∈ visited ↔ Relation.ReflTransGen trail.Follows start i
  /-- There is a message for each error that is not blank, in the order of the walk. -/
  headlines : List.Forall₂ (fun i line => Text.Headline (trail.textAt i) line)
    (visited.filter fun i => ¬Text.Blank (trail.textAt i)) messages
  oneLine : ∀ line ∈ messages, line ≠ "" ∧ Text.stripped line = line ∧
    ∀ c ∈ line.toList, Text.isLineBreak c = false
  hint_eq : hint = messages.getLast?
  hint_eq_none_iff : hint = none ↔ ∀ i ∈ visited, Text.Blank (trail.textAt i)
  /-- The hint is the message of the innermost error that is not blank. -/
  hint_eq_some_iff : ∀ line, hint = some line ↔
    ∃ front i back, visited = front ++ i :: back ∧ Text.Headline (trail.textAt i) line ∧
      ∀ j ∈ back, Text.Blank (trail.textAt j)

/-- The walk from any error of a trail ends, and tells the headlines of the errors that can be
    reached. -/
theorem reported_of_lt (h : start < trail.size) :
    trail.Reported start (trail.walk [] (some start)) (trail.messages start)
      (trail.hint start) := by
  constructor
  case isWalk_iff => exact fun _ => isWalk_iff h
  -- The walk is no longer than the trail, as nothing on it is visited twice.
  case length_le =>
    have hle := length_walk_le trail [] (some start)
    simpa [unseen] using hle
  case mem_iff => exact fun _ => mem_walk_iff h
  case headlines =>
    rw [messages_eq]
    -- An entry is told by its first line, or has none and is left out.
    apply forall₂_filter_filterMap
    intro i _
    cases Text.firstLine_cases (trail.textAt i) with
    | inl h => exact .inl h
    | inr h => exact .inr ⟨not_not_intro h.1, h.2⟩
  case oneLine =>
    intro line hline
    rw [messages_eq, List.mem_filterMap] at hline
    obtain ⟨i, -, hi⟩ := hline
    have hheadline := Text.firstLine_eq_some_iff.1 hi
    exact ⟨hheadline.ne_empty, hheadline.stripped_eq, hheadline.oneLine⟩
  case hint_eq => rfl
  case hint_eq_none_iff =>
    rw [hint, messages_eq, List.getLast?_eq_none_iff, List.filterMap_eq_nil_iff]
    simp only [Text.firstLine_eq_none_iff]
  case hint_eq_some_iff =>
    intro line
    rw [hint, messages_eq]
    exact getLast?_told_iff

/-- Causes and contexts that form a circle, with a blank text in it and an error outside of it. -/
def circle : Trail :=
  #[⟨" run: stopped \u2028at once", some 1, some 3⟩, ⟨"\x1f\n", none, some 2⟩,
    ⟨"\n\tno file \r\nhere", some 0, some 2⟩, ⟨"unrelated", some 3, none⟩]

/-- In a circle of failures each is told once. -/
theorem reported_circle :
    0 < circle.size ∧
      circle.Reported 0 [0, 1, 2] ["run: stopped", "no file"] (some "no file") := by
  have hwalk : circle.walk [] (some 0) = [0, 1, 2] := by
    simp [circle, walk, Link.next]
  have hmessages : circle.messages 0 = ["run: stopped", "no file"] := by
    rw [messages, hwalk]
    decide
  have hreported := @reported_of_lt circle 0 (by decide)
  rw [hint, hmessages, hwalk] at hreported
  exact ⟨by decide, hreported⟩

end Transclude.Trail
