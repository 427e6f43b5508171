import Transclude.Proofs.Resolver
import Transclude.Proofs.Session.Event

/-!
# Courses of events

The store of a session changes by its events and by nothing else: each event is about
a locator that is not in the store yet, and what it brings is stored there
(`Leads`).  Whatever is stored is then never replaced, and a locator for which
something has come is not asked for again.
-/

namespace Transclude

/-- The events lead from one store to another. -/
inductive Leads : Store → List Event → Store → Prop where
  | nil (s : Store) : Leads s [] s
  | cons {e : Event} {es : List Event} {t : Store} (habsent : e.store.find? e.uri = none)
    (h : Leads e.after es t) : Leads e.store (e :: es) t

namespace Store

/-- A store that cannot be read says so, and does not pass for one where nothing is found. -/
def Honest (s : Store) : Prop := ∀ e ∈ s.broken, e.isMiss = false

variable {s : Store} {uri other : String} {answer : Except Failure ByteArray}

/-- Learning an answer does not break the store. -/
@[simp] theorem broken_learn : (s.learn uri answer).broken = s.broken := by
  cases answer <;> rfl

/-- Learning an answer does not touch other keys. -/
private theorem find?_learn_of_ne (h : other ≠ uri) :
    (s.learn uri answer).find? other = s.find? other := by
  cases answer with
  | ok data => exact find?_store_of_ne h data
  | error e => rfl

/-- What is new after `uri` has been asked for is what came back. -/
theorem eq_of_find?_learn {data : ByteArray} (hs : s.find? other = none)
    (h : (s.learn uri answer).find? other = some data) : uri = other ∧ answer = .ok data := by
  by_cases hother : other = uri
  -- Only an answer that brings something is learnt.
  · subst hother
    cases answer with
    | ok brought =>
      rw [learn, find?_store_self, Option.some.injEq] at h
      rw [h]
      exact ⟨rfl, rfl⟩
    | error e =>
      rw [learn, hs] at h
      cases h
  · rw [find?_learn_of_ne hother, hs] at h
    cases h

/-- An answer that is no failure is found. -/
@[simp] theorem find?_learn_ok (data : ByteArray) :
    (s.learn uri (.ok data)).find? uri = some data :=
  find?_store_self uri data

/-- Everything that is stored in `s` is stored in `t`. -/
def Within (s t : Store) : Prop :=
  ∀ uri data, s.find? uri = some data → t.find? uri = some data

/-- A store is within itself. -/
private theorem Within.refl (s : Store) : s.Within s := fun _ _ hs => hs

/-- A store within another one is within what that one is within. -/
private theorem Within.trans {t u : Store} (h : s.Within t) (h' : t.Within u) : s.Within u :=
  fun uri data hs => h' uri data (h uri data hs)

/-- Nothing is lost by an answer for a key that is not stored. -/
private theorem within_learn (h : s.find? uri = none) (answer : Except Failure ByteArray) :
    s.Within (s.learn uri answer) := by
  intro other data hs
  have hne : other ≠ uri := by
    rintro rfl
    rw [h] at hs
    cases hs
  rwa [find?_learn_of_ne hne]

end Store

namespace Leads

variable {s t u : Store} {es fs : List Event} {uri : String} {data : ByteArray}

/-- One course can follow another. -/
theorem append (h : Leads s es t) (h' : Leads t fs u) : Leads s (es ++ fs) u := by
  induction h with
  | nil => exact h'
  | cons habsent _ ih => exact .cons habsent (ih h')

/-- The events do not break the store, and do not mend it. -/
theorem broken_eq (h : Leads s es t) : t.broken = s.broken := by
  induction h with
  | nil => rfl
  | cons _ _ ih => rw [ih, Event.after, Store.broken_learn]

/-- An honest store stays honest on its course. -/
theorem honest (h : Leads s es t) (hs : s.Honest) : t.Honest := by
  intro e he
  exact hs e (h.broken_eq ▸ he)

/-- A locator that no event is about keeps what it has. -/
theorem find?_eq (h : Leads s es t) (hother : ∀ e ∈ es, e.uri ≠ uri) :
    t.find? uri = s.find? uri := by
  induction h with
  | nil => rfl
  | @cons e es t _ _ ih =>
    have hne : uri ≠ e.uri := fun he => hother e List.mem_cons_self he.symm
    rw [ih fun e' he' => hother e' (List.mem_cons_of_mem _ he'), Event.after,
      Store.find?_learn_of_ne hne]

/-- What is stored is never replaced, as no event is about it: at the start, at each event and at
    the end, everything is stored that was stored before. -/
theorem pairwise_within (h : Leads s es t) :
    (s :: (es.map Event.store ++ [t])).Pairwise Store.Within := by
  -- Each store lies within the next one, so the first lies within all of them.
  induction h with
  | nil s => exact List.pairwise_pair.2 (.refl s)
  | @cons e es t habsent _ ih =>
    have hafter : e.store.Within e.after := Store.within_learn habsent _
    obtain ⟨hhead, -⟩ := List.pairwise_cons.1 ih
    have hlater : ∀ u ∈ es.map Event.store ++ [t], e.store.Within u := fun u hu =>
      hafter.trans (hhead u hu)
    rw [List.map_cons, List.cons_append, List.pairwise_cons]
    refine ⟨List.forall_mem_cons.2 ⟨.refl _, hlater⟩, ?_⟩
    exact List.pairwise_cons.2 ⟨hlater, ih.of_cons⟩

/-- Nothing is lost on a course. -/
theorem within (h : Leads s es t) : s.Within t :=
  (List.pairwise_cons.1 h.pairwise_within).1 t (List.mem_append_right _ (List.mem_singleton_self t))

/-- Nothing of the start is lost at any event of a course. -/
private theorem within_of_mem (h : Leads s es t) {e : Event} (he : e ∈ es) : s.Within e.store :=
  (List.pairwise_cons.1 h.pairwise_within).1 _ (List.mem_append_left _ (List.mem_map_of_mem he))

/-- Every event is about a locator that is not in the store. -/
theorem absent (h : Leads s es t) : ∀ e ∈ es, e.store.find? e.uri = none := by
  induction h with
  | nil => exact List.forall_mem_nil _
  | cons habsent _ ih => exact List.forall_mem_cons.2 ⟨habsent, ih⟩

/-- Once an event has brought something, no other event is about its locator. -/
theorem pairwise_uri_ne (h : Leads s es t) :
    es.Pairwise fun e e' => ∀ data, e.answer = .ok data → e'.uri ≠ e.uri := by
  induction h with
  | nil => exact .nil
  | @cons e es t habsent h ih =>
    refine .cons (fun e' he' data hanswer huri => ?_) ih
    -- What came back is in the store from then on.
    have hafter : e.after.find? e.uri = some data := by
      rw [Event.after, hanswer, Store.find?_learn_ok]
    have hthere := h.within_of_mem he' _ _ hafter
    rw [← huri, h.absent e' he'] at hthere
    cases hthere

/-- What is new in the store has been brought by an event. -/
theorem exists_of_new (h : Leads s es t) (hs : s.find? uri = none) (ht : t.find? uri = some data) :
    ∃ e ∈ es, e.uri = uri ∧ e.answer = .ok data := by
  induction h with
  | nil => rw [hs] at ht; cases ht
  | @cons e es t habsent h ih =>
    cases hafter : e.after.find? uri with
    | none =>
      obtain ⟨e', he', huri, hanswer⟩ := ih hafter ht
      exact ⟨e', List.mem_cons_of_mem _ he', huri, hanswer⟩
    | some found =>
      -- It is there right after this event, so this event has brought it.
      obtain rfl : found = data := Option.some.inj ((h.within _ _ hafter).symm.trans ht)
      refine ⟨e, List.mem_cons_self, ?_⟩
      exact Store.eq_of_find?_learn hs hafter

/-- If all events about a locator fail, nothing is stored there. -/
theorem find?_eq_none (h : Leads s es t) {e : Event} (he : e ∈ es)
    (hfails : ∀ e' ∈ es, e'.uri = e.uri → ∀ data, e'.answer ≠ .ok data) :
    t.find? e.uri = none := by
  -- It was absent at the event, so it was absent at the start.
  have hs : s.find? e.uri = none := by
    cases hs : s.find? e.uri with
    | none => rfl
    | some found => exact (h.within_of_mem he _ _ hs).symm.trans (h.absent e he)
  cases ht : t.find? e.uri with
  | none => rfl
  | some data =>
    obtain ⟨e', he', huri, hanswer⟩ := h.exists_of_new hs ht
    exact absurd hanswer (hfails e' he' huri data)

end Leads

end Transclude
