import Transclude.Proofs.Action
import Transclude.Resolver

/-!
# A session only ever learns

What is stored under a locator stays there for the rest of a session
(`Session.Grows`), whether what is done succeeds or fails.  An action with this
property is `Growing`; the combinators keep it, so it is proved once for the
resolver and carried on from there.
-/

namespace Transclude

/-! ## The store -/

namespace Store

/-- What has been stored is found. -/
theorem lookup_put_self (uri : String) (data : ByteArray) (entries : List (String × ByteArray)) :
    (put uri data entries).lookup uri = some data := by
  induction entries with
  | nil => simp [put]
  | cons entry entries ih =>
    obtain ⟨u, d⟩ := entry
    unfold put
    -- Either this entry is replaced or it is passed over, and then the induction applies.
    by_cases hu : u = uri
    · rw [if_pos hu, hu, List.lookup_cons_self]
    · have hne : (uri == u) = false := by simpa using fun h => hu h.symm
      rw [if_neg hu, List.lookup_cons, hne]
      exact ih

/-- Storing leaves the other locators alone. -/
theorem lookup_put_of_ne {uri other : String} (h : other ≠ uri) (data : ByteArray)
    (entries : List (String × ByteArray)) :
    (put uri data entries).lookup other = entries.lookup other := by
  induction entries with
  | nil =>
    have hne : (other == uri) = false := by simpa using h
    simp [put, List.lookup_cons, hne]
  | cons entry entries ih =>
    obtain ⟨u, d⟩ := entry
    unfold put
    -- The entry that is replaced is one of another name.
    by_cases hu : u = uri
    · have hne : (other == u) = false := by rw [hu]; simpa using h
      rw [if_pos hu, List.lookup_cons, List.lookup_cons, hne]
    · rw [if_neg hu, List.lookup_cons, List.lookup_cons]
      cases other == u with
      | true => rfl
      | false => exact ih

variable {s : Store}

/-- What has been stored is found. -/
@[simp] theorem find?_store_self (uri : String) (data : ByteArray) :
    (s.store uri data).find? uri = some data :=
  lookup_put_self uri data s.entries

/-- What is stored under another key is found as before. -/
theorem find?_store_of_ne {uri other : String} (h : other ≠ uri) (data : ByteArray) :
    (s.store uri data).find? other = s.find? other :=
  lookup_put_of_ne h data s.entries

end Store

/-! ## Looking up -/

namespace Resolver

variable {store : Store} {uri : String}

/-- A store that can be read gives what it holds and nothing else. -/
theorem lookup_of_readable (h : store.broken = none) :
    lookup store uri = .ok (store.find? uri) := by
  unfold lookup Store.retrieve
  rw [h]
  cases hfind : store.find? uri with
  | some data => rfl
  | none =>
    -- A name that is not there is a miss, and no miss is an error here.
    have hmiss : (Failure.about uri (.notStored uri)).isMiss = true := rfl
    simp only [hmiss, if_true]

end Resolver

/-! ## Growing -/

/-- The store of a session can be read. -/
def Session.Readable {σ : Type} (s : Session σ) : Prop := s.store.broken = none

/-- Nothing that is stored in `s` is missing or different in `t`. -/
structure Session.Grows {σ : Type} (s t : Session σ) : Prop where
  broken : t.store.broken = s.store.broken
  kept : ∀ {uri : String} {data : ByteArray},
    s.store.find? uri = some data → t.store.find? uri = some data

namespace Session.Grows

variable {σ : Type} {s t u : Session σ}

/-- A session that stays as it is grows. -/
theorem refl (s : Session σ) : s.Grows s := ⟨rfl, id⟩

/-- Growing twice is growing. -/
theorem trans (h : s.Grows t) (h' : t.Grows u) : s.Grows u :=
  ⟨h'.broken.trans h.broken, fun hs => h'.kept (h.kept hs)⟩

/-- A session that can be read can be read when it has grown. -/
theorem readable (h : s.Grows t) (hs : s.Readable) : t.Readable := h.broken.trans hs

end Session.Grows

/-- Whatever happens in a session with a readable store, the session only grows. -/
def Growing {σ α : Type} (a : Action (Session σ) α) : Prop :=
  ∀ s : Session σ, s.Readable → s.Grows (Action.left (a s))

namespace Growing

variable {σ α β : Type} {a : Action (Session σ) α}

/-- A growing action that succeeds has only added to what is stored. -/
theorem of_ok (h : Growing a) {s t : Session σ} {x : α} (hs : s.Readable) (ha : a s = .ok x t) :
    s.Grows t := by
  have hleft := h s hs
  rwa [ha] at hleft

/-- An action that only returns adds nothing. -/
theorem pure (x : α) : Growing (Pure.pure x : Action (Session σ) α) := fun s _ => .refl s

/-- An action that only fails does not have to add anything. -/
theorem throw (e : Failure) : Growing (MonadExcept.throw e : Action (Session σ) α) :=
  fun s _ => .refl s

/-- A result taken as an action adds nothing. -/
theorem ofExcept (r : Except Failure α) : Growing (Action.ofExcept r : Action (Session σ) α) := by
  intro s _
  cases r <;> exact .refl s

/-- Growing actions can be run after each other. -/
theorem bind {f : α → Action (Session σ) β} (ha : Growing a) (hf : ∀ x, Growing (f x)) :
    Growing (a >>= f) := by
  intro s hs
  have hleft := ha s hs
  rw [Action.bind_apply]
  cases hr : a s with
  | ok x t =>
    rw [hr] at hleft
    exact hleft.trans (hf x t (hleft.readable hs))
  | error e t =>
    rw [hr] at hleft
    exact hleft

end Growing

namespace Resolver

variable {σ : Type} {uri : String} {produce : Action (Session σ) ByteArray}

/-- What lies outside is no matter of the store. -/
theorem growing_outside {α : Type} (a : Action σ α) : Growing (Session.outside a) := by
  intro s _
  unfold Session.outside Action.within
  cases a s.world <;> exact ⟨rfl, id⟩

/-- A derived value is stored where nothing was, so it replaces nothing. -/
theorem growing_derive (h : Growing produce) (uri : String) : Growing (derive uri produce) := by
  intro s hs
  unfold derive
  rw [lookup_of_readable hs]
  cases hfind : s.store.find? uri with
  | some data => exact .refl s
  | none =>
    have hleft := h s hs
    cases hr : produce s with
    | error e t => rwa [hr] at hleft
    | ok data t =>
      rw [hr] at hleft
      refine ⟨hleft.broken, fun {other bytes} hother => ?_⟩
      -- A locator in use differs from the one under which nothing was found.
      have hne : other ≠ uri := by
        intro he
        rw [he, hfind] at hother
        cases hother
      show (t.store.store uri data).find? other = some bytes
      rw [Store.find?_store_of_ne hne]
      exact hleft.kept hother

/-- Finding a source only adds to what is stored. -/
theorem growing_resolve (fetchers : List (Fetcher σ)) (uri : String) :
    Growing (resolve fetchers uri) :=
  growing_derive (growing_outside _) uri

/-- A value that has been derived is stored. -/
theorem find?_of_derive {s t : Session σ} {data : ByteArray} (hs : s.Readable)
    (h : derive uri produce s = .ok data t) : t.store.find? uri = some data := by
  unfold derive at h
  rw [lookup_of_readable hs] at h
  -- A value that was there before is handed out; otherwise it is stored now.
  cases hfind : s.store.find? uri with
  | some found =>
    rw [hfind] at h
    cases h
    exact hfind
  | none =>
    rw [hfind] at h
    cases hr : produce s with
    | error e t => simp [hr] at h
    | ok produced t =>
      simp only [hr, EStateM.Result.ok.injEq] at h
      obtain ⟨rfl, rfl⟩ := h
      exact Store.find?_store_self uri _

/-- A stored value is not produced again. -/
theorem derive_of_find? {s : Session σ} {data : ByteArray} (hs : s.Readable)
    (h : s.store.find? uri = some data) : derive uri produce s = .ok data s := by
  unfold derive
  rw [lookup_of_readable hs, h]

end Resolver

end Transclude
