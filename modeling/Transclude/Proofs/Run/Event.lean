import Transclude.Proofs.Run
import Transclude.Proofs.Session.History

/-!
# What happens in a run

The events of a run are those of the documents that it renders, one after the other in
one session.
-/

namespace Transclude.Run

variable {σ : Type} {p : Processor (World σ)}

/-- The events of `renderFile`. -/
def fileEvents (p : Processor (World σ)) (path : Path) (s : Session (World σ)) : List Event :=
  match readDocument s.tree path with
  | .ok before => p.renderEvents before s
  | .error _ => []

/-- The events of `renderAll`. -/
def allEvents (p : Processor (World σ)) : List Path → Session (World σ) → List Event
  | [], _ => []
  | path :: rest, s => fileEvents p path s ++
    match renderFile p path s with
    | .ok _ t => allEvents p rest t
    | .error _ _ => []

/-- The events of a run. -/
def events (p : Processor (World σ)) (directory : Path) (w : World σ) : List Event :=
  match listing w.tree directory with
  | .ok paths => allEvents p paths ⟨{}, w⟩
  | .error _ => []

/-- Every event of a run is a call out of a session. -/
theorem made_of_mem_allEvents {paths : List Path} {s : Session (World σ)} (hs : s.store.Honest)
    {e : Event} (he : e ∈ allEvents p paths s) : ∃ directives all, e.Made p directives all := by
  induction paths generalizing s with
  | nil => cases he
  | cons path rest ih =>
    rcases List.mem_append.1 he with he | he
    · unfold fileEvents at he
      cases hread : readDocument s.tree path with
      | error e' => rw [hread] at he; cases he
      | ok before =>
        rw [hread] at he
        have hmade := @Processor.made_of_mem_events _ p s e (.render before) hs he
        exact ⟨_, _, hmade⟩
    · cases hr : renderFile p path s with
      | error e' t => rw [hr] at he; cases he
      | ok rendering t =>
        rw [hr] at he
        -- The session stays honest, so the induction goes on with it.
        obtain ⟨before, after, -, hrender, -⟩ := renderFile_eq_ok_iff.1 hr
        have hleads := Processor.leads_render (p := p) hs before
        rw [hrender] at hleads
        exact ih (hleads.honest hs) he

/-- Every event of a run is a call out of its session. -/
theorem made_of_mem_events {directory : Path} {w : World σ} {e : Event}
    (he : e ∈ events p directory w) : ∃ directives all, e.Made p directives all := by
  unfold events at he
  cases hlisting : listing w.tree directory with
  | error e' => rw [hlisting] at he; cases he
  | ok paths =>
    rw [hlisting] at he
    exact made_of_mem_allEvents (fun _ hbroken => by cases hbroken) he

end Transclude.Run
