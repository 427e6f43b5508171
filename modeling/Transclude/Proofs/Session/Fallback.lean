import Transclude.Proofs.Session.Note

/-!
# Which fetcher has the source

A source that is stored is not fetched.  Any other one is asked for at one fetcher after
the other, as long as they refuse it (`Refused`), that is fail with an error that lets
the next one try.  What the first fetcher says that does not refuse counts, and the
fetchers behind it are not asked; if all of them refuse, the error tells why, in order
(`resolve_noting`).  Which fetchers have been asked is read off the notes that they take.
-/

namespace Transclude

variable {σ : Type}

/-- The fetchers, asked in turn from the world `w` on, all refuse, and the world is `w'` then. -/
inductive Refused (uri : String) : List (Fetcher σ) → (w : σ) → List Failure → (w' : σ) → Prop where
  | nil (w : σ) : Refused uri [] w [] w
  | cons {fetcher : Fetcher σ} {rest : List (Fetcher σ)} {w t w' : σ} {e : Failure}
    {es : List Failure} (h : fetcher uri w = .error e t) (he : e.isFetch = true)
    (hrest : Refused uri rest t es w') : Refused uri (fetcher :: rest) w (e :: es) w'

/-- What fetchers that refuse note, where they have the numbers from `i` on. -/
def Note.refusals (uri : String) (i : Nat) (es : List Failure) : List Note :=
  (es.zipIdx i).map fun numbered => ⟨numbered.2, uri, .error numbered.1⟩

namespace Refused

variable {uri : String} {tried rest : List (Fetcher σ)} {w w' : σ} {es : List Failure}

/-- Fetchers that refuse are passed, and what they say is kept. -/
theorem fetchFrom_append (h : Refused uri tried w es w') (causes : List Failure) (i : Nat)
    (notes : List Note) :
    Resolver.fetchFrom uri causes (Fetcher.notingFrom i (tried ++ rest)) (w, notes) =
      Resolver.fetchFrom uri (es.reverse ++ causes)
        (Fetcher.notingFrom (i + tried.length) rest) (w', notes ++ Note.refusals uri i es) := by
  induction h generalizing causes i notes with
  | nil w => simp [Note.refusals]
  | @cons fetcher tried w t w' e es h he _ ih =>
    have hfetchers : Fetcher.notingFrom i (fetcher :: tried ++ rest) =
        fetcher.noting i :: Fetcher.notingFrom (i + 1) (tried ++ rest) := rfl
    -- The fetcher is asked first, and its note is put down.
    have hfetcher : fetcher.noting i uri (w, notes) =
        .error e (t, notes ++ [⟨i, uri, .error e⟩]) := by
      simp only [Fetcher.noting, h]
      rfl
    have hnotes : Note.refusals uri i (e :: es) =
        ⟨i, uri, .error e⟩ :: Note.refusals uri (i + 1) es := rfl
    have hcount : i + 1 + tried.length = i + (tried.length + 1) := by omega
    simp only [hfetchers, Resolver.fetchFrom, hfetcher, he, if_true]
    -- The causes stand in the reverse order of the refusals.
    rw [ih, hnotes, hcount, List.length_cons, List.reverse_cons, List.append_assoc,
      List.append_assoc, List.singleton_append, List.singleton_append]

end Refused

/-- Fetchers refuse up to the first one that does not. -/
theorem exists_refused (uri : String) (fetchers : List (Fetcher σ)) (w : σ) :
    ∃ tried rest es w', fetchers = tried ++ rest ∧ Refused uri tried w es w' ∧
      ∀ fetcher ∈ rest.head?, ∀ e t, fetcher uri w' = .error e t → e.isFetch = false := by
  -- The fetchers that refuse are a beginning of the list.
  induction fetchers generalizing w with
  | nil => exact ⟨[], [], [], w, rfl, .nil w, by simp⟩
  | cons fetcher fetchers ih =>
    by_cases hrefuses : ∃ e t, fetcher uri w = .error e t ∧ e.isFetch = true
    · obtain ⟨e, t, h, he⟩ := hrefuses
      obtain ⟨tried, rest, es, w', rfl, hrefused, hstop⟩ := ih t
      exact ⟨fetcher :: tried, rest, e :: es, w', rfl, .cons h he hrefused, hstop⟩
    · refine ⟨[], fetcher :: fetchers, [], w, rfl, .nil w, ?_⟩
      -- The first one that does not refuse ends the search.
      intro f hf e t h
      obtain rfl : fetcher = f := by simpa using hf
      cases he : e.isFetch with
      | false => rfl
      | true => exact absurd ⟨e, t, h, he⟩ hrefuses

namespace Resolver

variable {uri : String} {s : Session σ}

/-- What is stored is the answer, and no fetcher is asked. -/
theorem resolve_of_retrieve {data : ByteArray} (h : s.store.retrieve uri = .ok data)
    (fetchers : List (Fetcher σ)) : resolve fetchers uri s = .ok data s := by
  simp only [resolve, derive, lookup, h]

/-- A store that cannot be read is an error of its own, and no fetcher is asked. -/
theorem resolve_of_unreadable {e : Failure} (h : s.store.retrieve uri = .error e)
    (he : e.isMiss = false) (fetchers : List (Fetcher σ)) :
    resolve fetchers uri s = .error (.about uri (.unreadableCache e)) s := by
  simp only [resolve, derive, lookup, h, he, Bool.false_eq_true, if_false]

/-- What is not stored is fetched, and then stored. -/
theorem resolve_of_miss {e : Failure} (h : s.store.retrieve uri = .error e)
    (he : e.isMiss = true) (fetchers : List (Fetcher σ)) :
    resolve fetchers uri s =
      match fetchFrom uri [] fetchers s.world with
      | .ok data w => .ok data ⟨s.store.store uri data, w⟩
      | .error failure w => .error failure ⟨s.store, w⟩ := by
  simp only [resolve, derive, lookup, h, he, if_true, Session.outside, Action.within]
  cases fetchFrom uri [] fetchers s.world <;> rfl

/-- How a source is found.  If it is stored, it is taken from the store; if the store cannot be
    read, that is the error; in both cases no fetcher is asked.  Otherwise the fetchers are asked in
    turn, each of them once, up to the first one that does not refuse: its source is stored, and
    nothing else is, and any other failure of it is passed on.  If all refuse, the error holds just
    what they said, in order. -/
theorem resolve_noting (fetchers : List (Fetcher σ)) (uri : String) (s : Session σ)
    (notes : List Note) :
    (∀ data, s.store.retrieve uri = .ok data →
      resolve (Fetcher.notingFrom 0 fetchers) uri (s.noting notes) = .ok data (s.noting notes)) ∧
    (∀ e, s.store.retrieve uri = .error e → e.isMiss = false →
      resolve (Fetcher.notingFrom 0 fetchers) uri (s.noting notes) =
        .error (.about uri (.unreadableCache e)) (s.noting notes)) ∧
    ∀ e, s.store.retrieve uri = .error e → e.isMiss = true →
      ∃ tried rest refusals w, fetchers = tried ++ rest ∧
        Refused uri tried s.world refusals w ∧
        match rest with
        | [] =>
          resolve (Fetcher.notingFrom 0 fetchers) uri (s.noting notes) =
            .error (.about uri (.allFetchersFailed refusals))
              (Session.noting ⟨s.store, w⟩ (notes ++ Note.refusals uri 0 refusals))
        | fetcher :: _ =>
          (∃ data w' store, fetcher uri w = .ok data w' ∧
            resolve (Fetcher.notingFrom 0 fetchers) uri (s.noting notes) =
              .ok data (Session.noting ⟨store, w'⟩
                (notes ++ Note.refusals uri 0 refusals ++ [⟨tried.length, uri, .ok data⟩])) ∧
            store.broken = s.store.broken ∧ store.find? uri = some data ∧
            ∀ other, other ≠ uri → store.find? other = s.store.find? other) ∨
          ∃ failure w', fetcher uri w = .error failure w' ∧ failure.isFetch = false ∧
            resolve (Fetcher.notingFrom 0 fetchers) uri (s.noting notes) =
              .error failure (Session.noting ⟨s.store, w'⟩
                (notes ++ Note.refusals uri 0 refusals ++
                  [⟨tried.length, uri, .error failure⟩])) := by
  refine ⟨fun data h => resolve_of_retrieve (s := s.noting notes) h _,
    fun e h he => resolve_of_unreadable (s := s.noting notes) h he _, ?_⟩
  intro e h he
  obtain ⟨tried, rest, refusals, w, rfl, hrefused, hstop⟩ := exists_refused uri fetchers s.world
  refine ⟨tried, rest, refusals, w, rfl, hrefused, ?_⟩
  -- What is left after the fetchers that refuse.
  have hfetch : fetchFrom uri [] (Fetcher.notingFrom 0 (tried ++ rest)) (s.noting notes).world =
      fetchFrom uri refusals.reverse (Fetcher.notingFrom tried.length rest)
        (w, notes ++ Note.refusals uri 0 refusals) := by
    have happend : fetchFrom uri [] (Fetcher.notingFrom 0 (tried ++ rest)) (s.world, notes) = _ :=
      hrefused.fetchFrom_append [] 0 notes
    rwa [List.append_nil, Nat.zero_add] at happend
  rw [resolve_of_miss (s := s.noting notes) h he, hfetch]
  cases rest with
  | nil =>
    -- Nobody is left, so every cause is listed in the order of the fetchers.
    show EStateM.Result.error
      (Failure.about uri (.allFetchersFailed refusals.reverse.reverse)) _ = _
    rw [List.reverse_reverse]
    rfl
  | cons fetcher rest =>
    have hfetchers : Fetcher.notingFrom tried.length (fetcher :: rest) =
        fetcher.noting tried.length :: Fetcher.notingFrom (tried.length + 1) rest := rfl
    have hnoting : fetcher.noting tried.length uri (w, notes ++ Note.refusals uri 0 refusals) =
        Action.carry (fun w' => (w', notes ++ Note.refusals uri 0 refusals ++
          [⟨tried.length, uri, Action.outcome (fetcher uri w)⟩])) (fetcher uri w) := rfl
    simp only [hfetchers, fetchFrom, hnoting]
    -- The next fetcher brings the data, or it fails in a way that is final.
    cases hr : fetcher uri w with
    | ok data w' =>
      refine .inl ⟨data, w', s.store.store uri data, rfl, rfl, rfl,
        Store.find?_store_self uri data, ?_⟩
      exact fun other hother => Store.find?_store_of_ne hother data
    | error failure w' =>
      have hno := hstop fetcher rfl failure w' hr
      refine .inr ⟨failure, w', rfl, hno, ?_⟩
      simp only [Action.carry, hno, Bool.false_eq_true, if_false]
      rfl

end Resolver

end Transclude
