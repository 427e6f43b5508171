import Transclude.Text.Line

/-! # The trail behind an error

An error may have come about through another one, its cause, or while another
one was being handled, its context.  A `Trail` is a set of errors with such
links between them; links may run in circles.  The walk from an error goes on
to the cause, or to the context if there is no cause, and stops at the end or
before it would come to an error a second time. -/

namespace Transclude

/-- An error in a trail: its text, and the places of the errors that it is linked to. -/
structure Trail.Link where
  text : String
  cause : Option Nat := none
  context : Option Nat := none
deriving Repr, DecidableEq

/-- The place that the walk goes to from a link. -/
def Trail.Link.next (link : Trail.Link) : Option Nat := link.cause.or link.context

/-- Errors with links between them, by place. -/
abbrev Trail := Array Trail.Link

namespace Trail

/-- The places that are not among those that have been visited. -/
def unseen (trail : Trail) (seen : List Nat) : List Nat :=
  (List.range trail.size).filter fun i => decide (i ∉ seen)

/-- To see one more place is to drop it from what is unseen. -/
private theorem unseen_cons (trail : Trail) (seen : List Nat) (i : Nat) :
    trail.unseen (i :: seen) = (trail.unseen seen).filter fun j => decide (j ≠ i) := by
  unfold unseen
  rw [List.filter_filter]
  congr 1
  funext j
  simp [not_or]

/-- Fewer places are left when one more has been visited. -/
theorem length_unseen_cons_lt {trail : Trail} {seen : List Nat} {i : Nat} (hi : i < trail.size)
    (hseen : i ∉ seen) : (trail.unseen (i :: seen)).length < (trail.unseen seen).length := by
  rw [unseen_cons, List.length_filter_lt_length_iff_exists]
  exact ⟨i, by simp [unseen, hi, hseen], by simp⟩

/-- The places on the walk from `place`, where the places `seen` have been visited. -/
def walk (trail : Trail) (seen : List Nat) (place : Option Nat) : List Nat :=
  match place with
  | none => []
  | some i =>
    if h : i < trail.size ∧ i ∉ seen then i :: walk trail (i :: seen) trail[i].next else []
termination_by (trail.unseen seen).length
decreasing_by exact length_unseen_cons_lt h.1 h.2

/-- The messages on the walk from an error: the first line of each text that is not blank. -/
def messages (trail : Trail) (start : Nat) : List String :=
  (walk trail [] (some start)).filterMap fun i =>
    trail[i]?.bind fun link => Text.firstLine link.text

/-- The last message on the walk, the most telling one. -/
def hint (trail : Trail) (start : Nat) : Option String := (trail.messages start).getLast?

end Trail

end Transclude
