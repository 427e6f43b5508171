import Transclude.Proofs.Web.Url

/-!
# Where the authorization goes

A client that is asked for an address at a host may be sent elsewhere by a server.  It `KeepsTo` the
host if it takes the authorization to no other.

The client of our own follows redirects, but a request that carries the authorization goes to the
host of the first one, over `https` and to its usual port (`hostIn_of_mem_send`).
-/

namespace Transclude.Web

/-- Asked for an address at the host, the client takes an authorization to that host only. -/
def Client.KeepsTo (client : Client) (host : String) : Prop :=
  ∀ authorization url, authorityIn url = some host → ∀ r ∈ (client authorization url).2,
    r.authorization ≠ none → hostIn r.url = some host

/-- The address is at a host, over `https` and at the usual port. -/
structure Url.At (u : Url) (host : String) : Prop where
  proper : u.Proper
  scheme : u.scheme = "https"
  host_eq : u.host = host
  portNumber : u.portNumber = none ∨ u.portNumber = some 443

variable {u v : Url} {host location : String}

/-- The authorization goes along to the same host only. -/
theorem Url.At.of_keepsAuthorization (hu : u.At host) (hv : v.Proper)
    (h : keepsAuthorization u v = true) : v.At host := by
  simp only [keepsAuthorization, Url.sameOrigin, Bool.or_eq_true, Bool.and_eq_true,
    decide_eq_true_eq] at h
  -- Either the origin is the same, or the scheme has gone up to `https`.
  rcases h with ⟨⟨hscheme, hhost⟩, hnumber⟩ | ⟨⟨⟨⟨-, hhttp⟩, -⟩, -⟩, -⟩
  · refine ⟨hv, hscheme ▸ hu.scheme, hhost ▸ hu.host_eq, ?_⟩
    have hdefault : Url.defaultPort? "https" = some 443 := rfl
    have hours : u.portNumber.or (some 443) = some 443 := by
      rcases hu.portNumber with h | h <;> rw [h] <;> rfl
    rw [← hscheme, hu.scheme, hdefault, hours] at hnumber
    cases hport : v.portNumber with
    | none => exact .inl rfl
    | some n =>
      rw [hport, Option.or_some] at hnumber
      exact .inr hnumber.symm
  · -- What starts at `https` never comes to `http` with the authorization.
    rw [hu.scheme] at hhttp
    exact absurd hhttp (by decide)

/-- A proper address stays proper with another host. -/
private theorem Url.Proper.withHost (hu : u.Proper)
    (h : Web.withHost u host = .ok v) : v.Proper := by
  unfold Web.withHost at h
  split at h
  · rename_i hpath
    cases h
    refine ⟨hu.userInfo, fun _ => ?_⟩
    rw [Bool.or_eq_true, String.isEmpty_iff, String.startsWith_string_iff] at hpath
    refine Url.slashed_iff.2 ?_
    rcases hpath with hempty | ⟨rest, hrest⟩
    · exact .inl (by rw [hempty]; rfl)
    · exact .inr ⟨rest, hrest.symm⟩
  · cases h

/-- A redirect leads to an address like any other. -/
theorem proper_of_target (h : target u location = .at v) : v.Proper := by
  unfold target at h
  cases hparse : Url.parse location with
  | error complaint => rw [hparse] at h; cases h
  | ok w =>
    have hw := Url.proper_of_parse_eq_ok hparse
    simp only [hparse] at h
    split at h
    · cases h
    · rename_i x hx
      have hproper : x.Proper := by
        split at hx
        · exact hw.withHost hx
        · cases hx
          exact hw
      split at h
      · cases h
      · rename_i y hy
        cases h
        have hy' : y.Proper := by
          split at hy
          · cases hy
            exact hproper
          · exact Url.proper_of_parse_eq_ok hy
        exact ⟨hy'.userInfo, hy'.path⟩

/-- A request is the first one, or it is sent after a redirect. -/
theorem mem_send {server : Server} {authorization : Option String} {redirects : Nat} {r : Request}
    (h : r ∈ (send server authorization redirects u).2) :
    r = ⟨u.text, authorization⟩ ∨
      ∃ n v location, redirects = n + 1 ∧ target u location = .at v ∧
        r ∈ (send server (if keepsAuthorization u v then authorization else none) n v).2 := by
  -- A reply that is no redirect, or that leads nowhere, ends the sending.
  unfold send at h
  cases hreply : server u.text with
  | failed reason =>
    rw [hreply] at h
    exact .inl (List.mem_singleton.1 h)
  | response status body moved =>
    rw [hreply] at h
    cases moved with
    | none => exact .inl (List.mem_singleton.1 h)
    | some location =>
      cases hredirect : isRedirect status with
      | false =>
        simp only [hredirect, Bool.not_false, if_true] at h
        exact .inl (List.mem_singleton.1 h)
      | true =>
        simp only [hredirect, Bool.not_true, Bool.false_eq_true, if_false] at h
        cases htarget : target u location with
        | malformed complaint =>
          rw [htarget] at h
          exact .inl (List.mem_singleton.1 h)
        | badAddress complaint =>
          rw [htarget] at h
          exact .inl (List.mem_singleton.1 h)
        | «at» v =>
          rw [htarget] at h
          cases redirects with
          | zero => exact .inl (List.mem_singleton.1 h)
          | succ n =>
            rcases List.mem_cons.1 h with h | h
            · exact .inl h
            · exact .inr ⟨n, v, location, rfl, htarget, h⟩

/-- Whatever redirects there are, a request with an authorization goes to the host that the first
    one goes to. -/
theorem hostIn_of_mem_send (hhost : Url.PlainHost host) {server : Server}
    {authorization : Option String} {redirects : Nat} (h : authorization = none ∨ u.At host)
    {r : Request} (hr : r ∈ (send server authorization redirects u).2)
    (hcarries : r.authorization ≠ none) : hostIn r.url = some host := by
  induction redirects using Nat.strongRecOn generalizing authorization u with
  | ind redirects ih =>
    -- The request is the first one, or one behind the redirect.
    rcases mem_send hr with rfl | ⟨n, v, location, rfl, htarget, hlater⟩
    · obtain ⟨hproper, hscheme, rfl, hnumber⟩ := h.resolve_left hcarries
      exact Url.hostIn_text hproper hscheme hhost hnumber
    · -- Behind the redirect there is no authorization, or the host is the same.
      refine ih n (Nat.lt_succ_self n) ?_ hlater
      cases hkeeps : keepsAuthorization u v with
      | false => exact .inl (if_neg Bool.false_ne_true)
      | true =>
        rw [if_pos rfl]
        exact h.imp_right fun hu => hu.of_keepsAuthorization (proper_of_target htarget) hkeeps

end Transclude.Web
