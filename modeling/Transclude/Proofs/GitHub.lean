import Transclude.GitHub
import Transclude.Proofs.Text.Search
import Transclude.Proofs.Web.Client

/-!
# Which host the token goes to

The address of a file on GitHub is the raw host with what stands behind the name of the host in the
locator.  The authority of that address is the raw host if and only if the name of the host ends
there (`EndsHost`); then a client that keeps to the host takes the token there and nowhere else
(`rawUrl_authority`).  Where something else follows, it becomes a part of the authority, and the
token goes elsewhere (`fetch_otherHost`).
-/

namespace Transclude.GitHub

open Transclude.Web

variable {uri url : String}

/-- What stands in a locator behind the name of the host. -/
def behindHost? (uri : String) : Option (List Char) :=
  let text := withoutFinalSlash (Text.trim uri.toList)
  (behind? host text).or (behind? rawHost text)

/-- The name of the host ends where `path` starts. -/
def EndsHost (path : List Char) : Prop := ∀ c ∈ path.head?, endsAuthority c = true

/-- The path of a file, where `path` is the path of its page. -/
def filePath (path : List Char) : List Char :=
  Text.replaceFirst "/tree/".toList ['/'] (Text.replaceFirst "/blob/".toList ['/'] path)

/-- Replacing `blob` and `tree` leaves the host alone. -/
theorem replaceFirst_rawHost {word : List Char} {c : Char} (hslash : c ≠ '/') (hr : c ≠ 'r')
    (path : List Char) :
    Text.replaceFirst ('/' :: c :: word) ['/'] ("https://".toList ++ (rawHost.toList ++ path)) =
      "https://".toList ++ (rawHost.toList ++ Text.replaceFirst ('/' :: c :: word) ['/'] path) := by
  have hscheme : ∀ d ∈ "https:".toList, d ≠ '/' :=
    Text.forall_mem_of_all (by decide)
  have hhost : ∀ d ∈ rawHost.toList, d ≠ '/' :=
    Text.forall_mem_of_all (by decide)
  -- The only slashes of the address in front of the path are those of the scheme.
  have hsplit : "https://".toList = "https:".toList ++ ['/', '/'] := rfl
  have hrest : rawHost.toList = 'r' :: "aw.githubusercontent.com".toList := rfl
  rw [hsplit, List.append_assoc, Text.replaceFirst_append hscheme, List.append_assoc]
  congr 1
  -- Behind each of them stands something else than the first character of the word.
  rw [List.cons_append, Text.replaceFirst_cons (by simp [List.isPrefixOf, hslash])]
  rw [List.cons_append, Text.replaceFirst_cons (by simp [List.isPrefixOf, hrest, hr])]
  rw [List.nil_append, Text.replaceFirst_append hhost]
  rfl

/-- An address is rewritten to the raw host and what stands behind the host name. -/
theorem rawUrl_eq_ok_iff : rawUrl uri = .ok url ↔
    ∃ path, behindHost? uri = some path ∧
      url = String.ofList ("https://".toList ++ (rawHost.toList ++ filePath path)) := by
  unfold rawUrl behindHost?
  dsimp only
  -- The path is behind the first host name that is found.
  cases (behind? host _).or _ with
  | none => simp
  | some path =>
    have hurl : ("https://" ++ rawHost).toList ++ path =
        "https://".toList ++ (rawHost.toList ++ path) := by simp
    simp only [hurl, Option.some.injEq, exists_eq_left', Except.ok.injEq]
    unfold filePath
    -- Both replacements pass over the scheme and the host.
    have hblob : "/blob/".toList = '/' :: 'b' :: "lob/".toList := rfl
    have htree : "/tree/".toList = '/' :: 't' :: "ree/".toList := rfl
    rw [hblob, htree, replaceFirst_rawHost (by decide) (by decide),
      replaceFirst_rawHost (by decide) (by decide), eq_comm]

/-- Rewriting the path does not touch what may be a part of the host name. -/
private theorem takeWhile_filePath (path : List Char) :
    (filePath path).takeWhile (fun c => !endsAuthority c) =
      path.takeWhile fun c => !endsAuthority c := by
  have hslash : (!endsAuthority '/') = false := rfl
  exact (Text.takeWhile_replaceFirst hslash []).trans (Text.takeWhile_replaceFirst hslash [])

/-! ## The request -/

/-- The authority is the raw host and what follows the name of the host, up to the next mark. -/
theorem authorityIn_rawUrl (path : List Char) :
    authorityIn (String.ofList ("https://".toList ++ (rawHost.toList ++ filePath path))) =
      some (rawHost ++ String.ofList (path.takeWhile fun c => !endsAuthority c)) := by
  have hhost : ∀ c ∈ rawHost.toList, (!endsAuthority c) = true :=
    Text.forall_mem_of_all (by decide)
  rw [authorityIn_ofList, List.takeWhile_append_of_pos hhost, takeWhile_filePath,
    String.ofList_append, String.ofList_toList]

/-- The raw host is a host name like any other. -/
private theorem plainHost_rawHost : Url.PlainHost rawHost :=
  ⟨by decide, Text.forall_mem_of_all (by decide)⟩

/-- Where the name of the host ends, the address is read as one at the raw host. -/
theorem at_of_parse_eq_ok {path : List Char} (hpath : EndsHost path) {u : Url}
    (h : Url.parse (String.ofList ("https://".toList ++ (rawHost.toList ++ path))) = .ok u) :
    u.At rawHost := by
  have hparsed := Url.parsed_of_parse_eq_ok h
  rw [String.toList_ofList] at hparsed
  have hscheme : Url.splitScheme ("https://".toList ++ (rawHost.toList ++ path)) =
      ("https".toList, "//".toList ++ (rawHost.toList ++ path)) := rfl
  have hauthority : (Url.authorityAndPath ("https://".toList ++ (rawHost.toList ++ path))).1 =
      rawHost.toList := by
    have hnumber : ∀ c ∈ "//".toList ++ rawHost.toList, decide (c ≠ '#') = true :=
    Text.forall_mem_of_all (by decide)
    have hquestion : ∀ c ∈ "//".toList ++ rawHost.toList, decide (c ≠ '?') = true :=
    Text.forall_mem_of_all (by decide)
    have hslash : ∀ c ∈ rawHost.toList, decide (c ≠ '/') = true :=
    Text.forall_mem_of_all (by decide)
    unfold Url.authorityAndPath Url.splitAt
    rw [hscheme, ← List.append_assoc]
    dsimp only
    rw [List.takeWhile_append_of_pos hnumber, List.takeWhile_append_of_pos hquestion]
    refine Text.takeWhile_append hslash fun c hc => ?_
    -- What is left of the path is empty or starts with a slash.
    cases path with
    | nil => cases hc
    | cons d rest =>
      have hd : (d = '/' ∨ d = '?') ∨ d = '#' := by simpa [endsAuthority] using hpath d rfl
      rcases hd with (rfl | rfl) | rfl
      · simpa using hc.symm
      · simp at hc
      · simp at hc
  have hhost := hparsed.host
  have hnumber := hparsed.portNumber
  unfold Url.hostAndDigits at hhost hnumber
  rw [hauthority] at hhost hnumber
  refine ⟨Url.proper_of_parse_eq_ok h, ?_, ?_, ?_⟩
  · rw [hparsed.scheme, hscheme]
    rfl
  · exact (Except.ok.inj hhost).symm
  · left
    exact (Except.ok.inj hnumber).symm

/-- The host name ends if nothing of the path can belong to it. -/
private theorem endsHost_iff {path : List Char} :
    EndsHost path ↔ path.takeWhile (fun c => !endsAuthority c) = [] := by
  unfold EndsHost
  cases path with
  | nil => simp
  | cons c rest => cases h : endsAuthority c <;> simp [h]

/-- The client of our own keeps to the raw host. -/
private theorem keepsTo_get (server : Server) : (Web.get server).KeepsTo rawHost := by
  intro authorization url hauthority r hr hcarries
  obtain ⟨path, rfl, hpath⟩ := exists_of_authorityIn hauthority
  unfold Web.get at hr
  cases hparse : Url.parse (String.ofList ("https://".toList ++ (rawHost.toList ++ path))) with
  | error complaint => rw [hparse] at hr; cases hr
  | ok u =>
    have hu := at_of_parse_eq_ok hpath hparse
    simp only [hparse] at hr
    split at hr
    · cases hr
    · exact hostIn_of_mem_send plainHost_rawHost (.inr hu) hr hcarries

/-- A file is asked for once, with the token, at the address that its locator has. -/
private theorem requests_fetch (h : rawUrl uri = .ok url) (client : Client)
    (token : Option String) :
    (fetch client token uri).2 = (client (authorization token) url).2 := by
  unfold fetch
  rw [h]

/-- The authority of the address of a file is the raw host and whatever stands in the locator
    between the name of the host and the next slash, question mark or number sign.  It is the raw
    host alone if and only if the name of the host ends there.  The client is asked for that address
    only, and one that keeps to the host takes the token to the raw host and nowhere else. -/
theorem rawUrl_authority (h : rawUrl uri = .ok url) :
    ∃ path, behindHost? uri = some path ∧
      authorityIn url = some (rawHost ++ String.ofList (path.takeWhile fun c => !endsAuthority c)) ∧
      (authorityIn url = some rawHost ↔ EndsHost path) ∧
      ∀ (client : Client) (token : Option String),
        (fetch client token uri).2 = (client (authorization token) url).2 ∧
          (EndsHost path → client.KeepsTo rawHost → ∀ r ∈ (fetch client token uri).2,
            r.authorization ≠ none → hostIn r.url = some rawHost) := by
  obtain ⟨path, hbehind, rfl⟩ := rawUrl_eq_ok_iff.1 h
  have hauthority := authorityIn_rawUrl path
  -- What follows the host name belongs to the authority, unless it ends it.
  have hends : authorityIn
    (String.ofList ("https://".toList ++ (rawHost.toList ++ filePath path))) =
      some rawHost ↔ EndsHost path := by
    rw [hauthority, Option.some.injEq, endsHost_iff, ← String.toList_inj, String.toList_append,
      String.toList_ofList, List.append_right_eq_self]
  refine ⟨path, hbehind, hauthority, hends, fun client token => ?_⟩
  have hrequests := requests_fetch h client token
  refine ⟨hrequests, fun hpath hclient r hr hcarries => ?_⟩
  -- What the client is asked for is known, so what it sends is up to the client.
  rw [hrequests] at hr
  exact hclient _ _ (hends.2 hpath) r hr hcarries

/-- The first request is sent on to another host. -/
def elsewhere : Server := fun url =>
  if url = "https://raw.githubusercontent.com/u/r/main/a.go?x" then
    .response 302 .empty (some "https://example.org/a.go")
  else .response 200 .empty none

/-- A page under another name of the host, with a token, is asked for at the raw host. -/
theorem rawUrl_authority_www :
    rawUrl "www.github.com/u/r/blob/main/a.go?x" =
        .ok "https://raw.githubusercontent.com/u/r/main/a.go?x" ∧
      authorityIn "https://raw.githubusercontent.com/u/r/main/a.go?x" = some rawHost ∧
      (Web.get elsewhere).KeepsTo rawHost ∧
      (∀ r ∈ (fetch (Web.get elsewhere) (some "secret") "www.github.com/u/r/blob/main/a.go?x").2,
        r.authorization ≠ none → hostIn r.url = some rawHost) ∧
      (fetch (Web.get elsewhere) (some "secret") "www.github.com/u/r/blob/main/a.go?x").2 =
        [⟨"https://raw.githubusercontent.com/u/r/main/a.go?x", some "Bearer secret"⟩,
          ⟨"https://example.org/a.go", none⟩] := by
  have h : rawUrl "www.github.com/u/r/blob/main/a.go?x" =
    .ok "https://raw.githubusercontent.com/u/r/main/a.go?x" := rfl
  obtain ⟨path, hbehind, -, hends, hclient⟩ := rawUrl_authority h
  -- A slash follows the host name.
  have hpath : EndsHost path := by
    obtain rfl : "/u/r/blob/main/a.go?x".toList = path := Option.some.inj hbehind
    rintro c ⟨⟩
    rfl
  refine ⟨h, hends.2 hpath, keepsTo_get elsewhere, ?_, by decide +kernel⟩
  exact (hclient (Web.get elsewhere) (some "secret")).2 hpath (keepsTo_get elsewhere)

/-- A client that sends a single request, which fails. -/
def singleRequest : Client := fun authorization url =>
  (.failed "connection refused", [⟨url, authorization⟩])

/-- The name of another host may start like that of GitHub: then the token goes there. -/
theorem fetch_otherHost :
    (fetch singleRequest (some "secret")
      "https://github.com.example.org/user/repo/blob/main/file.go").2 =
      [⟨"https://raw.githubusercontent.com.example.org/user/repo/main/file.go",
        some "Bearer secret"⟩] ∧
    authorityIn "https://raw.githubusercontent.com.example.org/user/repo/main/file.go" =
      some "raw.githubusercontent.com.example.org" := by
  decide +kernel

end Transclude.GitHub
