import Transclude.Action

/-!
# How actions end

An action is taken apart at its binds: `bind_eq_ok_iff` names the value and the
world in the middle, so that later proofs never unfold `EStateM`.

Three relations look at failures as well.  `Gives` says how an action ends from
every world in a class, and `Agrees` that it ends in the same way from two worlds;
both keep to the class.  `Alike` relates the two worlds that are left instead.
`Keeps` says what an action leaves alone however it ends.
-/

namespace Transclude

/-- Whether a result is there can be computed, also where failures cannot be compared. -/
theorem eq_ok_of_toOption {ε α : Type} {r : Except ε α} {x : α} (h : r.toOption = some x) :
    r = .ok x := by
  cases r with
  | error e => cases h
  | ok y => exact congrArg _ (Option.some.inj h)

/-- A result in two steps is the result of the second step. -/
theorem except_bind_eq_ok_iff {ε α β : Type} {r : Except ε α} {f : α → Except ε β} {y : β} :
    r >>= f = .ok y ↔ ∃ x, r = .ok x ∧ f x = .ok y := by
  cases r with
  | ok x =>
    show f x = .ok y ↔ _
    simp
  | error e =>
    show Except.error e = .ok y ↔ _
    simp

/-! ## Errors of a category -/

/-- The result is an error of a category, without a word about where it is. -/
def FailsIn {α : Type} (category : Category) (r : Except Failure α) : Prop :=
  ∃ problem, r = .error (.of problem) ∧ problem.category = category

section

variable {α : Type} {category : Category}

/-- An error fails in its own category. -/
@[simp] theorem failsIn_of_iff {problem : Problem Failure} :
    FailsIn category (.error (.of problem) : Except Failure α) ↔ problem.category = category := by
  constructor
  · rintro ⟨problem', he, hcategory⟩
    cases he
    exact hcategory
  · exact fun h => ⟨problem, rfl, h⟩

/-- What succeeds fails in no category. -/
@[simp] theorem not_failsIn_ok {x : α} : ¬FailsIn category (.ok x) := by
  rintro ⟨problem, he, -⟩
  cases he

/-- A fault is in no category. -/
@[simp] theorem not_failsIn_fault {f : Fault} :
    ¬FailsIn category (.error (.fault f) : Except Failure α) := by
  rintro ⟨problem, he, -⟩
  cases he

/-- An error is no fault. -/
@[simp] theorem Failure.of_ne_fault {problem : Problem Failure} {f : Fault} :
    Failure.of problem ≠ .fault f := by
  intro he
  cases he

end

namespace Action

variable {σ τ α β : Type}

/-- A bind runs the first action and hands its value and its world on. -/
theorem bind_apply (a : Action σ α) (f : α → Action σ β) (s : σ) :
    (a >>= f) s =
      match a s with
      | .ok x s' => f x s'
      | .error e s' => .error e s' := by
  simp only [bind, EStateM.bind]
  cases a s <;> rfl

/-- Nothing happens in an action that only returns. -/
@[simp] theorem pure_apply (x : α) (s : σ) : (pure x : Action σ α) s = .ok x s := rfl

/-- A bind ends well if both of its actions do. -/
theorem bind_eq_ok_iff {a : Action σ α} {f : α → Action σ β} {s s' : σ} {y : β} :
    (a >>= f) s = .ok y s' ↔ ∃ x t, a s = .ok x t ∧ f x t = .ok y s' := by
  rw [bind_apply]
  constructor
  · intro h
    cases ha : a s with
    | ok x t => exact ⟨x, t, rfl, by simpa only [ha] using h⟩
    | error e t => simp [ha] at h
  · rintro ⟨x, t, ha, hf⟩
    simpa only [ha] using hf

@[simp] theorem ofExcept_ok (x : α) (s : σ) : ofExcept (.ok x) s = .ok x s := rfl

@[simp] theorem ofExcept_error (e : Failure) (s : σ) :
    (ofExcept (.error e) : Action σ α) s = .error e s := rfl

/-- A result that is known beforehand leaves the world alone. -/
theorem ofExcept_eq_ok_iff {r : Except Failure α} {s s' : σ} {x : α} :
    ofExcept r s = .ok x s' ↔ r = .ok x ∧ s' = s := by
  cases r with
  | ok y => simp [eq_comm]
  | error e => simp

/-- Context is for errors only. -/
theorem withContext_eq_ok_iff {c : Context} {a : Action σ α} {s s' : σ} {x : α} :
    withContext c a s = .ok x s' ↔ a s = .ok x s' := by
  unfold withContext
  cases a s <;> simp

/-! ### Failing -/

/-- A bind fails if one of its actions does, and then as this action does. -/
theorem bind_eq_error_iff {a : Action σ α} {f : α → Action σ β} {s s' : σ} {e : Failure} :
    (a >>= f) s = .error e s' ↔
      a s = .error e s' ∨ ∃ x t, a s = .ok x t ∧ f x t = .error e s' := by
  rw [bind_apply]
  constructor
  · intro h
    cases ha : a s with
    | ok x t => exact .inr ⟨x, t, rfl, by simpa only [ha] using h⟩
    | error e' t =>
      simp only [ha, EStateM.Result.error.injEq] at h
      exact .inl (by rw [h.1, h.2])
  · rintro (ha | ⟨x, t, ha, hf⟩)
    · simp only [ha]
    · simpa only [ha] using hf

/-- A result taken as an action fails as it is, and changes nothing. -/
theorem ofExcept_eq_error_iff {r : Except Failure α} {s s' : σ} {e : Failure} :
    ofExcept r s = .error e s' ↔ r = .error e ∧ s' = s := by
  cases r with
  | ok x => simp
  | error e' => simp [eq_comm]

/-- Context is added to what fails, and to nothing else. -/
theorem withContext_eq_error_iff {c : Context} {a : Action σ α} {s s' : σ} {e : Failure} :
    withContext c a s = .error e s' ↔ ∃ e', a s = .error e' s' ∧ e = e'.withContext c := by
  unfold withContext
  constructor
  · intro h
    cases ha : a s with
    | ok x t => simp [ha] at h
    | error e' t =>
      simp only [ha, EStateM.Result.error.injEq] at h
      exact ⟨e', by rw [h.2], h.1.symm⟩
  · rintro ⟨e', ha, rfl⟩
    simp only [ha]

/-! ## Outcomes -/

/-- The value or the failure that an action ends with. -/
def outcome : EStateM.Result Failure σ α → Except Failure α
  | .ok x _ => .ok x
  | .error e _ => .error e

/-- The world that an action leaves. -/
def left : EStateM.Result Failure σ α → σ
  | .ok _ s => s
  | .error _ s => s

/-- A result taken as an action leaves the state as it was. -/
@[simp] theorem left_ofExcept (r : Except Failure α) (s : σ) : left (ofExcept r s) = s := by
  cases r <;> rfl

/-- The outcome of a result taken as an action is that result. -/
@[simp] theorem outcome_ofExcept (r : Except Failure α) (s : σ) : outcome (ofExcept r s) = r := by
  cases r <;> rfl

/-- Context is added to the outcome. -/
theorem outcome_withContext (c : Context) (a : Action σ α) (s : σ) :
    outcome (withContext c a s) = (outcome (a s)).mapError (Failure.withContext c) := by
  unfold withContext
  cases a s <;> rfl

/-- Adding context does not touch the state. -/
theorem left_withContext (c : Context) (a : Action σ α) (s : σ) :
    left (withContext c a s) = left (a s) := by
  unfold withContext
  cases a s <;> rfl

/-- An action on a part of the state has the outcome that it has on the part. -/
theorem outcome_within (get : σ → τ) (set : τ → σ → σ) (a : Action τ α) (s : σ) :
    outcome (within get set a s) = outcome (a (get s)) := by
  unfold within
  cases a (get s) <;> rfl

/-- An action on a part of the state leaves the rest as it is. -/
theorem left_within (get : σ → τ) (set : τ → σ → σ) (a : Action τ α) (s : σ) :
    left (within get set a s) = set (left (a (get s))) s := by
  unfold within
  cases a (get s) <;> rfl

/-- From every world in `I` the action ends as `r` says, and in a world in `I`. -/
def Gives (I : σ → Prop) (a : Action σ α) (r : Except Failure α) : Prop :=
  ∀ s, I s → outcome (a s) = r ∧ I (left (a s))

namespace Gives

variable {I : σ → Prop} {a : Action σ α} {r : Except Failure α}

/-- A known result is given. -/
theorem ofExcept (r : Except Failure α) : Gives I (Action.ofExcept r) r := by
  intro s hs
  cases r <;> exact ⟨rfl, hs⟩

/-- Actions that give known results can be run after each other. -/
theorem bind {f : α → Action σ β} {g : α → Except Failure β} (ha : Gives I a r)
    (hf : ∀ x, Gives I (f x) (g x)) : Gives I (a >>= f) (r >>= g) := by
  intro s hs
  obtain ⟨rfl, hleft⟩ := ha s hs
  rw [bind_apply]
  cases hr : a s with
  | ok x t =>
    rw [hr] at hleft
    exact hf x t hleft
  | error e t =>
    rw [hr] at hleft
    exact ⟨rfl, hleft⟩

/-- What an action has given is what it gives. -/
theorem of_ok (ha : Gives I a r) {s t : σ} {x : α} (hs : I s) (h : a s = .ok x t) :
    r = .ok x ∧ I t := by
  obtain ⟨rfl, hleft⟩ := ha s hs
  rw [h] at hleft ⊢
  exact ⟨rfl, hleft⟩

/-- A known result that is no failure is got, and the invariant still holds. -/
theorem exists_ok {x : α} (ha : Gives I a (.ok x)) {s : σ} (hs : I s) :
    ∃ t, a s = .ok x t ∧ I t := by
  obtain ⟨houtcome, hleft⟩ := ha s hs
  cases h : a s with
  | ok y t =>
    rw [h] at houtcome hleft
    cases houtcome
    exact ⟨t, rfl, hleft⟩
  | error e t =>
    rw [h] at houtcome
    cases houtcome

end Gives

/-! ## From two worlds -/

/-- The same value or the same failure, in worlds that `R` relates. -/
inductive Alike (R : σ → σ → Prop) :
    EStateM.Result Failure σ α → EStateM.Result Failure σ α → Prop where
  | ok {x : α} {s s' : σ} (h : R s s') : Alike R (.ok x s) (.ok x s')
  | error {e : Failure} {s s' : σ} (h : R s s') : Alike R (.error e s) (.error e s')

namespace Alike

variable {R : σ → σ → Prop} {a : Action σ α} {s s' : σ}

/-- The same result leaves related states related. -/
theorem ofExcept (r : Except Failure α) (hs : R s s') :
    Alike R (Action.ofExcept r s) (Action.ofExcept r s') := by
  cases r with
  | ok x => exact .ok hs
  | error e => exact .error hs

/-- Context may be added to what is alike. -/
theorem withContext (c : Context) (ha : Alike R (a s) (a s')) :
    Alike R (a.withContext c s) (a.withContext c s') := by
  unfold Action.withContext
  generalize a s = r at ha ⊢
  generalize a s' = r' at ha ⊢
  cases ha with
  | ok h => exact .ok h
  | error h => exact .error h

/-- What follows need only end alike where the first action has come to. -/
theorem bind {f : α → Action σ β} (ha : Alike R (a s) (a s'))
    (hf : ∀ {x t t'}, a s = .ok x t → R t t' → Alike R (f x t) (f x t')) :
    Alike R ((a >>= f) s) ((a >>= f) s') := by
  rw [bind_apply, bind_apply]
  generalize a s = r at ha hf ⊢
  generalize a s' = r' at ha ⊢
  cases ha with
  | ok h => exact hf rfl h
  | error h => exact .error h

/-- What succeeds on the one side succeeds on the other with the same result. -/
theorem exists_ok (ha : Alike R (a s) (a s')) {x : α} {t : σ} (h : a s = .ok x t) :
    ∃ t', a s' = .ok x t' ∧ R t t' := by
  rw [h] at ha
  generalize a s' = r' at ha ⊢
  cases ha with
  | ok hr => exact ⟨_, rfl, hr⟩

/-- Runs are alike if they have the same outcome and leave related states. -/
theorem of_outcome_eq (houtcome : outcome (a s) = outcome (a s'))
    (h : R (left (a s)) (left (a s'))) :
    Alike R (a s) (a s') := by
  generalize a s = r at houtcome h ⊢
  generalize a s' = r' at houtcome h ⊢
  cases r <;> cases r' <;> cases houtcome
  · exact .ok h
  · exact .error h

end Alike

/-- From `s` and from `s'` the action ends in the same way, and in worlds in `I`. -/
structure Agrees (I : σ → Prop) (a : Action σ α) (s s' : σ) : Prop where
  outcome_eq : outcome (a s) = outcome (a s')
  left_mem : I (left (a s))
  left_mem' : I (left (a s'))

namespace Agrees

variable {I : σ → Prop} {a : Action σ α} {s s' : σ}

/-- To agree is to be alike and to keep the invariant on both sides. -/
theorem iff_alike : Agrees I a s s' ↔ Alike (fun t t' => I t ∧ I t') (a s) (a s') := by
  constructor
  · intro h
    exact .of_outcome_eq h.outcome_eq ⟨h.left_mem, h.left_mem'⟩
  · intro h
    -- Both runs are taken apart together; the relation holds between their final states.
    generalize hr : a s = r at h
    generalize hr' : a s' = r' at h
    cases h with
    | ok ht => exact ⟨by rw [hr, hr']; rfl, by rw [hr]; exact ht.1, by rw [hr']; exact ht.2⟩
    | error ht => exact ⟨by rw [hr, hr']; rfl, by rw [hr]; exact ht.1, by rw [hr']; exact ht.2⟩

/-- What gives a known result agrees with itself. -/
theorem of_gives {r : Except Failure α} (h : Gives I a r) (hs : I s) (hs' : I s') :
    Agrees I a s s' :=
  ⟨(h s hs).1.trans (h s' hs').1.symm, (h s hs).2, (h s' hs').2⟩

/-- An action that only returns agrees with itself. -/
theorem pure (x : α) (hs : I s) (hs' : I s') : Agrees I (Pure.pure x : Action σ α) s s' :=
  ⟨rfl, hs, hs'⟩

/-- Context may be added to what agrees. -/
theorem withContext (c : Context) (ha : Agrees I a s s') : Agrees I (a.withContext c) s s' :=
  iff_alike.2 ((iff_alike.1 ha).withContext c)

/-- What follows need only agree where the first action has come to. -/
theorem bind {f : α → Action σ β} (ha : Agrees I a s s')
    (hf : ∀ {x t t'}, a s = .ok x t → I t → I t' → Agrees I (f x) t t') :
    Agrees I (a >>= f) s s' :=
  iff_alike.2 ((iff_alike.1 ha).bind fun hr ht => iff_alike.1 (hf hr ht.1 ht.2))

end Agrees

/-! ## What an action leaves alone -/

/-- The action leaves what `view` shows of the world as it was, also where it fails. -/
def Keeps {β : Type} (view : σ → β) (a : Action σ α) : Prop := ∀ s, view (left (a s)) = view s

namespace Keeps

variable {γ : Type} {view : σ → γ} {a : Action σ α}

/-- An action that only returns keeps every view. -/
theorem pure (x : α) : Keeps view (Pure.pure x : Action σ α) := fun _ => rfl

/-- An action that only fails keeps every view. -/
theorem throw (e : Failure) : Keeps view (MonadExcept.throw e : Action σ α) := fun _ => rfl

/-- A result taken as an action keeps every view. -/
theorem ofExcept (r : Except Failure α) : Keeps view (Action.ofExcept r) := by
  intro s
  cases r <;> rfl

/-- Context may be added to what keeps a view. -/
theorem withContext (h : Keeps view a) (c : Context) : Keeps view (a.withContext c) := by
  intro s
  rw [left_withContext]
  exact h s

/-- Actions that keep a view can be run after each other. -/
theorem bind {f : α → Action σ β} (ha : Keeps view a) (hf : ∀ x, Keeps view (f x)) :
    Keeps view (a >>= f) := by
  intro s
  have hleft := ha s
  rw [bind_apply]
  cases hr : a s with
  | ok x t =>
    rw [hr] at hleft
    exact (hf x t).trans hleft
  | error e t =>
    rw [hr] at hleft
    exact hleft

/-- A run that succeeds keeps the view. -/
theorem of_ok (h : Keeps view a) {s t : σ} {x : α} (ha : a s = .ok x t) : view t = view s := by
  have hleft := h s
  rwa [ha] at hleft

/-- A run that fails keeps the view. -/
theorem of_error (h : Keeps view a) {s t : σ} {e : Failure} (ha : a s = .error e t) :
    view t = view s := by
  have hleft := h s
  rwa [ha] at hleft

end Keeps

/-- What follows without touching the world leaves what the first action has left. -/
theorem left_bind {a : Action σ α} {f : α → Action σ β} (hf : ∀ x, Keeps id (f x)) (s : σ) :
    left ((a >>= f) s) = left (a s) := by
  rw [bind_apply]
  cases a s with
  | ok x t => exact hf x t
  | error e t => rfl

end Action

end Transclude
