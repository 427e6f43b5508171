import Transclude.Proofs.Run.Event
import Transclude.Proofs.Run.Listing
import Transclude.Proofs.Session.Blame

/-!
# What a run fails with

A run fails with an error, with what hinders the listing, with what happens without a call or
with what one of its calls has come back with (`blamed_of_run_eq_error`): reading and writing
documents and the deadline add nothing but errors of their own.
-/

namespace Transclude.Run

variable {σ : Type} {p : Processor (World σ)}

/-- A document is not read for an error only. -/
theorem errorsOnly_readDocument (tree : FileTree) (path : Path) :
    ErrorsOnly (readDocument tree path) := by
  unfold readDocument
  split
  · exact .error _ _
  · split
    · exact .ok _
    · exact .error _ _

end Transclude.Run
