import Transclude.Failure

/-! # Actions

What the library does to the world outside it: it fetches sources and reads and
writes files.  An action changes a world and ends with a value or a failure;
what it did before it failed stays done. -/

namespace Transclude

/-- Something done in a world of type `σ`. -/
abbrev Action (σ α : Type) := EStateM Failure σ α

namespace Action

variable {σ τ α : Type}

/-- The action that ends as `result` says and changes nothing. -/
def ofExcept (result : Except Failure α) : Action σ α := fun s =>
  match result with
  | .ok a => .ok a s
  | .error e => .error e s

/-- An action on a part of a world. -/
def within (get : σ → τ) (set : τ → σ → σ) (action : Action τ α) : Action σ α := fun s =>
  match action (get s) with
  | .ok a t => .ok a (set t s)
  | .error e t => .error e (set t s)

/-- The action, where an error that leaves `outer` open says it. -/
def withContext (outer : Context) (action : Action σ α) : Action σ α := fun s =>
  match action s with
  | .ok a s => .ok a s
  | .error e s => .error (e.withContext outer) s

end Action

end Transclude
