import Mathlib.Data.List.Basic
import Transclude.Proofs.Text.Search
import Transclude.Web.BuiltIn

/-!
# The host of an address

An address that is written out is cut at its marks again: the authority ends at the first
slash, question mark or number sign behind it, and the host stands between the last `@` and
the next colon.  No part that has been quoted holds one of the marks that end it, and the path
of an address with a host is empty or starts with a slash (`proper_of_parse_eq_ok`).  So the
host that stands in the text of an address is its host (`hostIn_text`).
-/

namespace Transclude.Web

/-- The character ends an authority. -/
def endsAuthority (c : Char) : Bool := c = '/' || c = '?' || c = '#'

/-- What stands in an address between `https://` and the next slash, question mark or number
    sign. -/
def authorityIn (address : String) : Option String :=
  (address.toList.dropPrefix? "https://".toList).map fun rest =>
    String.ofList (rest.takeWhile fun c => !endsAuthority c)

/-- The host in the authority of an address: it ends at a colon, and a user may stand in front of
    it. -/
def hostIn (address : String) : Option String :=
  (authorityIn address).map fun authority =>
    let behindUser := (authority.toList.reverse.takeWhile (· ≠ '@')).reverse
    String.ofList (behindUser.takeWhile (· ≠ ':'))

/-- The authority stands in front of the first character that can end it. -/
theorem authorityIn_ofList (rest : List Char) :
    authorityIn (String.ofList ("https://".toList ++ rest)) =
      some (String.ofList (rest.takeWhile fun c => !endsAuthority c)) := by
  have hdrop : ("https://".toList ++ rest).dropPrefix? "https://".toList = some rest :=
    List.dropPrefix?_eq_some_iff.2 ⟨_, rfl, BEq.rfl⟩
  unfold authorityIn
  rw [String.toList_ofList, hdrop, Option.map_some]

/-- An address goes on behind its authority with a mark that ends it, or not at all. -/
theorem exists_of_authorityIn {address authority : String}
    (h : authorityIn address = some authority) :
    ∃ rest, address = String.ofList ("https://".toList ++ (authority.toList ++ rest)) ∧
      ∀ c ∈ rest.head?, endsAuthority c = true := by
  unfold authorityIn at h
  obtain ⟨rest, hdrop, rfl⟩ := Option.map_eq_some_iff.1 h
  obtain ⟨scheme, haddress, hscheme⟩ := List.dropPrefix?_eq_some_iff.1 hdrop
  obtain rfl := eq_of_beq hscheme
  -- The authority ends at the first of three marks, or with the address.
  refine ⟨rest.dropWhile fun c => !endsAuthority c, ?_, fun c hc => ?_⟩
  · have hrest : (String.ofList (rest.takeWhile fun c => !endsAuthority c)).toList ++
        rest.dropWhile (fun c => !endsAuthority c) = rest := by
      rw [String.toList_ofList, List.takeWhile_append_dropWhile]
    rw [hrest, ← haddress, String.ofList_toList]
  · have hhead := List.head?_dropWhile_not (fun c => !endsAuthority c) rest
    rw [Option.mem_def.1 hc] at hhead
    simpa using hhead

/-- The authority is what stands in front of its end. -/
private theorem authorityIn_append {authority rest : List Char}
    (hauthority : ∀ c ∈ authority, endsAuthority c = false)
    (hrest : ∀ c ∈ rest.head?, endsAuthority c = true) :
    authorityIn (String.ofList ("https://".toList ++ (authority ++ rest))) =
      some (String.ofList authority) := by
  rw [authorityIn_ofList, Text.takeWhile_append]
  · simpa using hauthority
  · simpa using hrest

/-- The host is what stands between the `@` and the colon. -/
theorem hostIn_append {user host number rest : List Char}
    (huser : ∀ c ∈ user, endsAuthority c = false) (hat : ∀ c ∈ user.getLast?, c = '@')
    (hhost : ∀ c ∈ host, endsAuthority c = false ∧ c ≠ '@' ∧ c ≠ ':')
    (hnumber : ∀ c ∈ number, endsAuthority c = false ∧ c ≠ '@')
    (hcolon : ∀ c ∈ number.head?, c = ':')
    (hrest : ∀ c ∈ rest.head?, endsAuthority c = true) :
    hostIn (String.ofList ("https://".toList ++ (user ++ (host ++ number) ++ rest))) =
      some (String.ofList host) := by
  have hauthority : ∀ c ∈ user ++ (host ++ number), endsAuthority c = false := by
    simp only [List.mem_append]
    rintro c (hc | hc | hc)
    · exact huser c hc
    · exact (hhost c hc).1
    · exact (hnumber c hc).1
  unfold hostIn
  rw [authorityIn_append hauthority hrest, Option.map_some, String.toList_ofList]
  -- No `@` stands behind the last one.
  have hbehind : (user ++ (host ++ number)).reverse.takeWhile (· ≠ '@') =
      (host ++ number).reverse := by
    rw [List.reverse_append, Text.takeWhile_append]
    · simp only [List.mem_reverse, List.mem_append, decide_eq_true_eq]
      rintro c (hc | hc)
      · exact (hhost c hc).2.1
      · exact (hnumber c hc).2
    · rw [List.head?_reverse]
      simpa using hat
  rw [hbehind, List.reverse_reverse]
  dsimp only
  rw [Text.takeWhile_append]
  · simpa using fun c hc => (hhost c hc).2.2
  · simpa using hcolon

namespace Url

/-! ## Escapes -/

/-- An escaped byte is written with letters and digits. -/
private theorem isAlphanum_hex {n : Nat} (hn : n < 256) :
    ∀ c ∈ (Text.hex 2 n).map Char.toUpper, c.isAlphanum = true := by
  have hall : ((List.range 256).all fun n =>
      ((Text.hex 2 n).map Char.toUpper).all Char.isAlphanum) = true := by decide +kernel
  exact List.all_eq_true.1 (List.all_eq_true.1 hall n (List.mem_range.2 hn))

/-- An escape is written in letters, digits and `%`. -/
theorem isUnreserved_of_mem_escaped {c d : Char} (h : d ∈ escaped c) :
    d = '%' ∨ isUnreserved d = true := by
  obtain ⟨b, -, hb⟩ := List.mem_flatMap.1 h
  rcases List.mem_cons.1 hb with rfl | hd
  · exact .inl rfl
  · right
    unfold isUnreserved
    rw [isAlphanum_hex b.toNat_lt d hd, Bool.true_or]

/-- Hexadecimal digits need no escape. -/
private theorem isUnreserved_of_isHexDigit {c : Char} (h : isHexDigit c = true) :
    isUnreserved c = true := by
  simp only [isHexDigit, Bool.or_eq_true, Bool.and_eq_true, decide_eq_true_eq] at h
  have halphanum : c.isAlphanum = ((c.isUpper || c.isLower) || c.isDigit) := rfl
  unfold isUnreserved
  rw [halphanum]
  rcases h with (hdigit | ⟨hle, hge⟩) | ⟨hle, hge⟩
  · simp [hdigit]
  · have hz : c ≤ 'z' := Char.le_trans hge (by decide)
    have hlower : c.isLower = true :=
      Bool.and_eq_true_iff.2 ⟨decide_eq_true hle, decide_eq_true hz⟩
    simp [hlower]
  · have hz : c ≤ 'Z' := Char.le_trans hge (by decide)
    have hupper : c.isUpper = true := decide_eq_true ⟨hle, hz⟩
    simp [hupper]

/-- A quoted text holds safe characters and escapes. -/
theorem mem_quoteChars {safe : Char → Bool} {cs : List Char} {c : Char}
    (h : c ∈ quoteChars safe cs) : isUnreserved c = true ∨ safe c = true ∨ c = '%' := by
  have hescaped : ∀ {d : Char}, c ∈ escaped d →
      isUnreserved c = true ∨ safe c = true ∨ c = '%' := fun hd => by
    rcases isUnreserved_of_mem_escaped hd with hd | hd
    · exact .inr (.inr hd)
    · exact .inl hd
  -- The cases of the induction are an escape, a percent sign, any other character, and the end.
  induction cs using quoteChars.induct with
  | case1 a b rest hhex ih =>
    rw [quoteChars, if_pos hhex] at h
    rw [Bool.and_eq_true] at hhex
    simp only [List.mem_cons] at h
    rcases h with h | rfl | rfl | h
    · exact .inr (.inr h)
    · exact .inl (isUnreserved_of_isHexDigit hhex.1)
    · exact .inl (isUnreserved_of_isHexDigit hhex.2)
    · exact ih h
  | case2 a b rest hhex ih =>
    rw [quoteChars, if_neg hhex] at h
    rcases List.mem_append.1 h with h | h
    · split at h
      · exact .inr (.inr (List.mem_singleton.1 h))
      · exact hescaped h
    · exact ih h
  | case3 d rest hd ih =>
    rw [quoteChars.eq_2 _ _ _ hd] at h
    rcases List.mem_append.1 h with h | h
    · split at h
      · rename_i hsafe
        rw [List.mem_singleton.1 h]
        rw [Bool.or_eq_true] at hsafe
        exact hsafe.imp_right .inl
      · exact hescaped h
    · exact ih h
  | case4 => cases h

/-- A character that needs an escape everywhere stands in no quoted text. -/
theorem ne_of_mem_quote {safe : Char → Bool} {cs : List Char} {c d : Char}
    (hc : c ∈ (quote safe cs).toList) (hunreserved : isUnreserved d = false)
    (hsafe : safe d = false) (hd : d ≠ '%') : c ≠ d := by
  rintro rfl
  rw [quote, String.toList_ofList] at hc
  rcases mem_quoteChars hc with h | h | h
  · rw [hunreserved] at h; cases h
  · rw [hsafe] at h; cases h
  · exact hd h

/-! ## Paths -/

/-- The path is empty or starts with a slash. -/
def Slashed (path : List Char) : Prop := ∀ c ∈ path.head?, c = '/'

/-- A path is empty or starts with a slash. -/
theorem slashed_iff {path : List Char} : Slashed path ↔ path = [] ∨ ∃ rest, path = '/' :: rest := by
  cases path with
  | nil => simp [Slashed]
  | cons c rest => simp [Slashed]

/-- The empty segment in front of the first slash stays in front. -/
theorem normalSegments_concat (front segments : List (List Char)) :
    ∃ rest, normalSegments (front ++ [[]]) segments = [] :: rest := by
  induction segments generalizing front with
  | nil => exact ⟨front.reverse, by simp [normalSegments]⟩
  | cons segment segments ih =>
    unfold normalSegments
    split
    · exact ih front
    · split
      · -- Nothing is above the topmost directory.
        cases front with
        | nil => exact ih []
        | cons last front =>
          have hmore : ((last :: front ++ [[]]).isEmpty || decide (last :: front ++ [[]] = [[]])) =
              false := by simp
          rw [hmore]
          exact ih front
      · exact ih (segment :: front)

/-- A path starts with a slash without its dots. -/
private theorem slashed_normalPath {path : List Char} (h : Slashed path) :
    Slashed (normalPath path) := by
  unfold normalPath joinSegments
  -- A path that starts with a slash starts with an empty segment.
  rcases slashed_iff.1 h with rfl | ⟨rest, rfl⟩
  · exact fun c hc => by cases hc
  · have hcut : Text.cut '/' ('/' :: rest) = [] :: Text.cut '/' rest := by simp [Text.cut]
    have hempty : normalSegments [] ([] :: Text.cut '/' rest) =
        normalSegments [[]] (Text.cut '/' rest) := by simp [normalSegments]
    obtain ⟨segments, hsegments⟩ := normalSegments_concat [] (Text.cut '/' rest)
    rw [hcut, hempty, ← List.nil_append [[]], hsegments]
    intro c hc
    cases segments with
    | nil => cases hc
    | cons segment segments => simpa [List.intercalate, eq_comm] using hc

/-- A path starts with a slash when it is escaped. -/
private theorem slashed_quote {path : List Char} (h : Slashed path) :
    Slashed (quote safeInPath path).toList := by
  rw [quote, String.toList_ofList]
  rcases slashed_iff.1 h with rfl | ⟨rest, rfl⟩
  · exact fun c hc => by cases hc
  · have hslash : (isUnreserved '/' || safeInPath '/') = true := by decide
    rw [quoteChars.eq_2 _ _ _ (by simp), if_pos hslash]
    simp [Slashed]

/-! ## Addresses that are read -/

/-- The authority and the path in the text of an address. -/
def authorityAndPath (text : List Char) : List Char × List Char :=
  splitAuthority (splitAt '?' (splitAt '#' (splitScheme text).2).1).1

/-- The host and the digits of the port number in the text of an address. -/
def hostAndDigits (text : List Char) : List Char × List Char :=
  splitPort (splitUserInfo (authorityAndPath text).1).2

/-- Where the parts of an address come from that has been read. -/
structure Parsed (text : List Char) (u : Url) : Prop where
  scheme : u.scheme = String.ofList ((splitScheme text).1.map Char.toLower)
  userInfo : u.userInfo = quote safeInUserInfo (splitUserInfo (authorityAndPath text).1).1
  host : readHost (withoutBrackets (hostAndDigits text).1) = .ok u.host
  portNumber : readPortNumber u.scheme (hostAndDigits text).2 = .ok u.portNumber
  path : u.host ≠ "" → u.path = quote safeInPath (normalPath (authorityAndPath text).2)

/-- An address that is read has the parts that it is read with. -/
theorem parsed_of_parse_eq_ok {text : String} {u : Url} (h : parse text = .ok u) :
    Parsed text.toList u := by
  unfold parse at h
  simp only [bind, Except.bind, throw, throwThe, MonadExceptOf.throw, pure, Except.pure] at h
  split at h
  · cases h
  · split at h
    · cases h
    · split at h
      · cases h
      · rename_i host hhost
        split at h
        · cases h
        · rename_i number hnumber
          split at h
          · cases h
          · split at h
            · cases h
            · cases h
              refine ⟨rfl, rfl, hhost, hnumber, fun hne => ?_⟩
              simp only [hne, ne_eq, not_false_eq_true, decide_true, Bool.or_true,
                Bool.true_or, if_true]
              rfl

/-- What is written out in front of the host and behind it can be told from the host. -/
structure Proper (u : Url) : Prop where
  userInfo : ∀ c ∈ u.userInfo.toList, endsAuthority c = false
  path : u.host ≠ "" → Slashed u.path.toList

/-- What is behind the text up to the first slash starts with it. -/
theorem slashed_drop (rest : List Char) :
    Slashed (rest.drop (rest.takeWhile (· ≠ '/')).length) := by
  induction rest with
  | nil => exact fun c hc => by cases hc
  | cons c rest ih =>
    by_cases hc : c = '/'
    · simp [hc, Slashed]
    · rw [List.takeWhile_cons_of_pos (by simpa using hc)]
      exact ih

/-- There is a host only behind two slashes, and what follows it is empty or starts with a slash. -/
theorem slashed_authorityAndPath {text : List Char} {u : Url} (h : Parsed text u)
    (hhost : u.host ≠ "") : Slashed (authorityAndPath text).2 := by
  have hread := h.host
  unfold hostAndDigits at hread
  unfold authorityAndPath at hread ⊢
  generalize (splitAt '?' (splitAt '#' (splitScheme text).2).1).1 = rest at hread ⊢
  unfold splitAuthority at hread ⊢
  split
  · exact slashed_drop _
  · rename_i hshape
    split at hread
    · exact absurd rfl (hshape _)
    · -- Without an authority the host that is read is empty.
      have hempty : u.host = "" := (Except.ok.inj hread).symm
      exact absurd hempty hhost

/-- An address that is read is proper. -/
theorem proper_of_parse_eq_ok {text : String} {u : Url} (h : parse text = .ok u) : u.Proper := by
  have hparsed := parsed_of_parse_eq_ok h
  -- Quoting leaves none of the three marks in the user information.
  refine ⟨fun c hc => ?_, fun hhost => ?_⟩
  · rw [hparsed.userInfo] at hc
    have hslash := ne_of_mem_quote hc (d := '/') (by decide) (by decide) (by decide)
    have hquestion := ne_of_mem_quote hc (d := '?') (by decide) (by decide) (by decide)
    have hnumber := ne_of_mem_quote hc (d := '#') (by decide) (by decide) (by decide)
    simp [endsAuthority, hslash, hquestion, hnumber]
  · rw [hparsed.path hhost]
    exact slashed_quote (slashed_normalPath (slashed_authorityAndPath hparsed hhost))

/-! ## Addresses that are written out -/

/-- The host can be told from what stands around it. -/
structure PlainHost (host : String) : Prop where
  ne_empty : host ≠ ""
  plain : ∀ c ∈ host.toList, endsAuthority c = false ∧ c ≠ '@' ∧ c ≠ ':'

/-- What stands behind the authority ends it. -/
theorem endsAuthority_of_mem_head? {path : List Char} (hpath : Slashed path)
    (query fragment : Option String) :
    ∀ c ∈ (path ++ ((query.elim "" ("?" ++ ·)).toList ++
      (fragment.elim "" ("#" ++ ·)).toList)).head?, endsAuthority c = true := by
  rcases slashed_iff.1 hpath with rfl | ⟨rest, rfl⟩
  · cases query with
    | some query => simp [endsAuthority]
    | none =>
      cases fragment with
      | some fragment => simp [endsAuthority]
      | none => simp
  · simp [endsAuthority]

/-- The host in the text of an address is its host. -/
theorem hostIn_text {u : Url} (hu : u.Proper) (hscheme : u.scheme = "https")
    (hhost : PlainHost u.host) (hnumber : u.portNumber = none ∨ u.portNumber = some 443) :
    hostIn u.text = some u.host := by
  obtain ⟨hne, hplain⟩ := hhost
  have hcolon : u.host.toList.contains ':' = false := by
    rw [Bool.eq_false_iff, ne_eq, List.contains_iff_mem]
    exact fun hmem => (hplain _ hmem).2.2 rfl
  have hrest := endsAuthority_of_mem_head? (hu.path hne) u.query u.fragment
  -- The port is not written, or it is the one that is assumed.
  obtain ⟨number, hnumber, hnumberText⟩ : ∃ number : String,
      ((∀ c ∈ number.toList, endsAuthority c = false ∧ c ≠ '@') ∧
        ∀ c ∈ number.toList.head?, c = ':') ∧
      (u.portNumber.elim "" fun n => ":" ++ toString n) = number := by
    rcases hnumber with hnone | hsome
    · exact ⟨"", by simp, by rw [hnone]; rfl⟩
    · exact ⟨":443", ⟨Text.forall_mem_of_all (by decide), by simp⟩, by rw [hsome]; rfl⟩
  obtain ⟨user, huser, huserText⟩ : ∃ user : String,
      ((∀ c ∈ user.toList, endsAuthority c = false) ∧ ∀ c ∈ user.toList.getLast?, c = '@') ∧
      (if u.userInfo.isEmpty then "" else u.userInfo ++ "@") = user := by
    refine ⟨_, ?_, rfl⟩
    split
    · simp
    · refine ⟨fun c hc => ?_, by simp⟩
      rw [String.toList_append, List.mem_append] at hc
      rcases hc with hc | hc
      · exact hu.userInfo c hc
      · rw [List.mem_singleton.1 hc]
        rfl
  -- The text of the address is written out part by part.
  have htext : u.text = String.ofList ("https://".toList ++
      (user.toList ++ (u.host.toList ++ number.toList) ++ (u.path.toList ++
        ((u.query.elim "" ("?" ++ ·)).toList ++ (u.fragment.elim "" ("#" ++ ·)).toList)))) := by
    have hauthority : u.authority = user ++ u.host ++ number := by
      rw [← huserText, ← hnumberText]
      unfold authority
      simp only [hcolon, Bool.false_eq_true, if_false]
      cases u.portNumber <;> rfl
    have hsome : u.authority.isEmpty = false := by
      rw [hauthority]
      simpa [String.isEmpty_iff] using fun _ h => absurd h hne
    have hhttps : "https".isEmpty = false := rfl
    rw [← String.toList_inj, String.toList_ofList]
    unfold text
    simp only [hscheme, hsome, hhttps, Bool.false_eq_true, if_false]
    rw [hauthority]
    cases u.query <;> cases u.fragment <;> simp [String.toList_append]
  rw [htext, hostIn_append huser.1 huser.2 hplain hnumber.1 hnumber.2 hrest, String.ofList_toList]

end Url

end Transclude.Web
