import Transclude.Proofs.Go.Listing

/-!
# A receiver with many stars

A method whose receiver has as many stars as calls may be deep is a declaration with a body, but
the declarations of its text are not listed (`declarations_starred_of_lt`).
-/

namespace Transclude.Go

open Syntax (Node Located Tree)

/-! ## The text and its tree -/

/-- A type behind stars. -/
def starred (field : Option String) (start stop : Nat) : Nat → Node
  | 0 => .mk "type_identifier" true field start stop []
  | stars + 1 => .mk "pointer_type" true field start stop
      [.mk "*" false none start (start + 1) [], starred none (start + 1) stop stars]

/-- A method whose receiver has stars in front. -/
def starredText (stars : Nat) : String :=
  "package p\n\nfunc (r " ++ String.ofList (List.replicate stars '*') ++ "T) " ++ "M" ++
    "() \x7b\n\x7d\n"

/-- The receiver of the method. -/
def starredReceiver (stars : Nat) : Node :=
  .mk "parameter_list" true (some "receiver") 16 (21 + stars)
    [.mk "(" false none 16 17 [],
      .mk "parameter_declaration" true none 17 (20 + stars)
        [.mk "identifier" true (some "name") 17 18 [], starred (some "type") 19 (20 + stars) stars],
      .mk ")" false none (20 + stars) (21 + stars) []]

/-- The method. -/
def starredMethod (stars : Nat) : Node :=
  .mk "method_declaration" true none 11 (29 + stars)
    [.mk "func" false none 11 15 [], starredReceiver stars,
      .mk "field_identifier" true (some "name") (22 + stars) (23 + stars) [],
      .mk "parameter_list" true (some "parameters") (23 + stars) (25 + stars)
        [.mk "(" false none (23 + stars) (24 + stars) [],
          .mk ")" false none (24 + stars) (25 + stars) []],
      .mk "block" true (some "body") (26 + stars) (29 + stars)
        [.mk "\x7b" false none (26 + stars) (27 + stars) [],
          .mk "\x7d" false none (28 + stars) (29 + stars) []]]

/-- The tree of the text. -/
def starredTree (stars : Nat) : Tree where
  root := .mk "source_file" true none 0 (30 + stars)
    [.mk "package_clause" true none 0 9
        [.mk "package" false none 0 7 [], .mk "package_identifier" true none 8 9 []],
      .mk "\n" false none 9 11 [], starredMethod stars,
      .mk "\n" false none (29 + stars) (30 + stars) []]
  hasError := false

/-- A library that reads the text. -/
def starredLibrary (stars : Nat) : Library where
  parse _ := starredTree stars
  findings query tree := query.matchesIn tree
  callDepth := Fault.callDepth

variable {stars depth : Nat}

/-! ## The search -/

section Search

variable {type : String} {below : Node → Except Failure (Option Node)} {n : Node} {rest : List Node}

/-- Tokens are passed over. -/
private theorem findAmong_of_token (h : n.named = false) :
    Syntax.findAmong type below (n :: rest) = Syntax.findAmong type below rest := by
  rw [Syntax.findAmong, h]
  rfl

/-- A node of another type with nothing in it is passed over. -/
private theorem findAmong_of_none (h : n.type ≠ type) (hbelow : below n = .ok none) :
    Syntax.findAmong type below (n :: rest) = Syntax.findAmong type below rest := by
  rw [Syntax.findAmong, if_neg h, hbelow]
  split <;> rfl

/-- A node that cannot be searched ends the search. -/
private theorem findAmong_of_error {e : Failure} (hnamed : n.named = true) (h : n.type ≠ type)
    (hbelow : below n = .error e) : Syntax.findAmong type below (n :: rest) = .error e := by
  rw [Syntax.findAmong, if_pos hnamed, if_neg h, hbelow]
  rfl

end Search

/-- A pointer is a node with a name, and no type name. -/
private theorem named_starred (field : Option String) (start stop : Nat) (h : 0 < stars) :
    (starred field start stop stars).named = true ∧
      (starred field start stop stars).type ≠ "type_identifier" := by
  obtain ⟨more, rfl⟩ : ∃ more, stars = more + 1 := ⟨stars - 1, by omega⟩
  exact ⟨rfl, by rw [starred, Node.type]; decide⟩

/-- Below as many stars as calls may be deep nothing is found. -/
private theorem findBelow_starred (field : Option String) (start stop : Nat) (h : depth < stars) :
    (starred field start stop stars).findBelow "type_identifier" depth =
      .error (.fault Fault.tooDeep) := by
  induction stars generalizing field start depth with
  | zero => omega
  | succ stars ih =>
    cases depth with
    | zero => rfl
    | succ depth =>
      obtain ⟨hnamed, htype⟩ := named_starred none (start + 1) stop (by omega : 0 < stars)
      rw [starred, Node.findBelow, Node.children, findAmong_of_token rfl]
      exact findAmong_of_error hnamed htype (ih none (start + 1) (by omega))

/-- The name of the receiver is too deep to be found. -/
private theorem findBelow_starredReceiver (h : depth < stars) :
    (starredReceiver stars).findBelow "type_identifier" depth = .error (.fault Fault.tooDeep) := by
  match depth with
  | 0 | 1 | 2 => rfl
  | depth + 3 =>
    obtain ⟨hnamed, htype⟩ := named_starred (some "type") 19 (20 + stars) (by omega : 0 < stars)
    have hstarred := findBelow_starred (some "type") 19 (20 + stars) (by omega : depth + 1 < stars)
    have hparameter : "parameter_declaration" ≠ "type_identifier" := by decide
    rw [starredReceiver, Node.findBelow, Node.children, findAmong_of_token rfl]
    apply findAmong_of_error
    · rfl
    · exact hparameter
    -- The name in front of the type has nothing below.
    rw [Node.findBelow, Node.children, findAmong_of_none (by rw [Node.type]; decide) rfl]
    exact findAmong_of_error hnamed htype hstarred

/-! ## The declarations -/

/-- Stars are one byte each. -/
private theorem utf8ByteSize_replicate (stars : Nat) :
    (String.ofList (List.replicate stars '*')).utf8ByteSize = stars := by
  induction stars with
  | zero => rfl
  | succ stars ih =>
    rw [List.replicate_succ, String.ofList_cons, String.utf8ByteSize_append, ih,
      String.utf8ByteSize_singleton, Nat.add_comm]
    rfl

/-- The name of the method is a letter behind the stars. -/
private theorem text_name (stars : Nat) :
    (Node.mk "field_identifier" true (some "name") (22 + stars) (23 + stars) []).text
      (Text.encode (starredText stars)) = .ok "M" := by
  -- The name is one letter behind the stars, so its positions depend on their number.
  have hfront : ("package p\n\nfunc (r " : String).utf8ByteSize = 19 := by decide +kernel
  have hbehind : ("T) " : String).utf8ByteSize = 3 := by decide +kernel
  have hletter : ("M" : String).utf8ByteSize = 1 := by decide +kernel
  have hpiece : Text.Piece (starredText stars) (22 + stars) (23 + stars) "M" := by
    refine ⟨"package p\n\nfunc (r " ++ String.ofList (List.replicate stars '*') ++ "T) ",
      "() \x7b\n\x7d\n", ?_, ?_, ?_⟩
    · unfold starredText
      rfl
    · rw [String.utf8ByteSize_append, String.utf8ByteSize_append, utf8ByteSize_replicate, hfront,
        hbehind]
      omega
    · rw [String.utf8ByteSize_append, String.utf8ByteSize_append, String.utf8ByteSize_append,
        utf8ByteSize_replicate, hfront, hbehind, hletter]
      omega
  exact hpiece.slice_eq

private theorem parse_starredLibrary (stars : Nat) (bytes : ByteArray) :
    (starredLibrary stars).parse bytes = starredTree stars := rfl

private theorem findings_starredLibrary (stars : Nat) (query : Syntax.Query) (tree : Tree) :
    (starredLibrary stars).findings query tree = query.matchesIn tree := rfl

private theorem callDepth_starredLibrary (stars : Nat) :
    (starredLibrary stars).callDepth = Fault.callDepth := rfl

/-- Nothing is found at a node that is no declaration. -/
private theorem matchesAt_other {type : String} {named : Bool} {field : Option String}
    {start stop : Nat} {children : List Node} {parent : Option Node}
    (h : type ∉ ["function_declaration", "method_declaration", "type_spec"]) :
    matchesAt ⟨.mk type named field start stop children, parent⟩ = [] :=
  matchesAt_of_not_mem h

/-- Stars and types declare nothing. -/
private theorem flatMap_starred (field : Option String) (start stop : Nat) (parent : Option Node) :
    ((starred field start stop stars).family parent).flatMap matchesAt = [] := by
  induction stars generalizing field start parent with
  | zero =>
    simp (disch := decide) only [starred, Node.family, Syntax.families, List.flatMap_cons,
      List.flatMap_nil, List.append_nil, matchesAt_other]
  | succ stars ih =>
    rw [starred]
    simp (disch := decide) only [Node.family, Syntax.families, List.flatMap_append,
      List.flatMap_cons, List.flatMap_nil, List.append_nil, matchesAt_other, ih]

/-- The captures of the method. -/
def starredMatch (stars : Nat) : Syntax.Match where
  pattern := 1
  captures := [
    ("declaration", ⟨starredMethod stars, some (starredTree stars).root⟩),
    ("receiver", ⟨starredReceiver stars, some (starredMethod stars)⟩),
    ("name", ⟨.mk "field_identifier" true (some "name") (22 + stars) (23 + stars) [],
      some (starredMethod stars)⟩),
    ("body", ⟨.mk "block" true (some "body") (26 + stars) (29 + stars)
      [.mk "\x7b" false none (26 + stars) (27 + stars) [],
        .mk "\x7d" false none (28 + stars) (29 + stars) []], some (starredMethod stars)⟩)]

/-- The method is found. -/
private theorem matchesAt_starredMethod (stars : Nat) :
    matchesAt ⟨starredMethod stars, some (starredTree stars).root⟩ = [starredMatch stars] := by
  have hmethod : IsFunction [playing "receiver" "parameter_list", playing "name" "field_identifier"]
      (starredMethod stars) :=
    ⟨rfl, ⟨_, rfl, rfl, by decide⟩, List.mem_cons_of_mem _ List.mem_cons_self,
      fun _ => ⟨_, rfl, rfl, rfl⟩⟩
  have hreceivers : parts ["receiver"] (starredMethod stars) = [starredReceiver stars] := rfl
  rcases matchesAt_method (l := ⟨starredMethod stars, some (starredTree stars).root⟩)
    rfl hmethod with
    ⟨hnone, -⟩ | ⟨-, m, hm, hcaptured⟩
  · cases hnone
  · rw [hm]
    -- The match is that of a method, and all parts are known.
    cases hcaptured with
    | function htype =>
      have hne : "method_declaration" ≠ "function_declaration" := by decide
      exact absurd htype hne
    | struct htype =>
      have hne : "method_declaration" ≠ "type_spec" := by decide
      exact absurd htype hne
    | interface htype =>
      have hne : "method_declaration" ≠ "type_spec" := by decide
      exact absurd htype hne
    | method htype hreceiver hname hbody hblock =>
      cases hreceivers.symm.trans hreceiver
      cases hname
      cases hbody
      rfl

/-- The method is found, and nothing else. -/
private theorem matchesIn_starredTree (stars : Nat) :
    declarationQuery.matchesIn (starredTree stars) = [starredMatch stars] := by
  have hmethod := matchesAt_starredMethod stars
  rw [matchesIn_eq, ← hmethod]
  simp (disch := decide) only [Tree.located, starredTree, starredMethod, starredReceiver,
    Node.family, Syntax.families, List.flatMap_append, List.flatMap_cons, List.flatMap_nil,
    List.append_nil, List.nil_append, matchesAt_other, flatMap_starred]

/-- The declarations of the text are not listed if there are too many stars. -/
theorem declarations_starred_of_lt (h : Fault.callDepth < stars) :
    declarations (starredLibrary stars) (Text.encode (starredText stars)) =
      .error (.fault Fault.tooDeep) := by
  -- Only the name of the receiver goes wrong.
  have hreceiver : receiverName (starredLibrary stars) (Text.encode (starredText stars))
      (starredReceiver stars) = .error (.fault Fault.tooDeep) := by
    rw [receiverName, callDepth_starredLibrary, findBelow_starredReceiver h]
    rfl
  have hmatch : ofMatch (starredLibrary stars) (Text.encode (starredText stars))
      (starredMatch stars) = .error (.fault Fault.tooDeep) := by
    simp only [ofMatch, starredMatch, Syntax.Match.captured, List.lookup_cons, beq_self_eq_true,
      String.reduceBEq, bind, Except.bind, text_name, hreceiver]
    rfl
  rw [declarations_of_not_hasError (by rw [parse_starredLibrary]; rfl), parse_starredLibrary,
    findings_starredLibrary, matchesIn_starredTree, ofMatches, hmatch]
  rfl

/-- A method with a body is not listed, and neither is anything else. -/
theorem declarations_starredText :
    ((starredLibrary 1500).parse (Text.encode (starredText 1500))).hasError = false ∧
      (∃ l ∈ ((starredLibrary 1500).parse (Text.encode (starredText 1500))).located,
        l.node = starredMethod 1500 ∧ declares l.node = true) ∧
      declarations (starredLibrary 1500) (Text.encode (starredText 1500)) =
        .error (.fault Fault.tooDeep) := by
  have hmem : starredMethod 1500 ∈ (starredTree 1500).root.children :=
    List.mem_cons_of_mem _ (List.mem_cons_of_mem _ List.mem_cons_self)
  exact ⟨rfl, ⟨_, Syntax.mem_family_of_mem_children hmem (Node.self_mem_family _ _), rfl, rfl⟩,
    declarations_starred_of_lt (by decide)⟩

end Transclude.Go
