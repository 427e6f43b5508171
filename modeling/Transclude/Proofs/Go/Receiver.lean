import Transclude.Proofs.Go.Entry

/-!
# Receivers

A method goes by the base type of its receiver (`receiverName_eq`), also if the receiver is a
pointer or has parentheses or type arguments (`Denotes`).  The name of a receiver is at hand unless
the receiver is too high (`exists_receiverName`).
-/

namespace Transclude.Go

open Syntax (Node Located findAmong mem_of_findBelow)

variable {lib : Library} {text : String} {n base inner receiver : Node} {found : Option Node}

/-- What may be around the base type of a receiver: the parameter and the list that it is in, a
    star, parentheses, and arguments behind it. -/
def wrappers : List String :=
  ["parameter_list", "parameter_declaration", "pointer_type", "parenthesized_type", "generic_type"]

/-- The first type that a node names is its base type. -/
inductive Denotes (base : Node) : Node → Prop where
  | itself (hnamed : base.named = true) (htype : base.type = "type_identifier") : Denotes base base
  /-- There may be words in front of a type, such as the name of the receiver. -/
  | inside {n inner : Node} {before after : List Node} (htype : n.type ∈ wrappers)
    (hchildren : n.children = before ++ inner :: after)
    (hbefore : ∀ c ∈ before, c.children = [] ∧ c.type ≠ "type_identifier")
    (hnamed : inner.named = true) (hinner : Denotes base inner) : Denotes base n

/-! ## Searching -/

/-- Nodes in which nothing is found are passed over. -/
private theorem findAmong_append {type : String} {below : Node → Except Failure (Option Node)}
    {before rest : List Node}
    (hbefore : ∀ c ∈ before, c.type ≠ type ∧ ∀ o, below c = .ok o → o = none)
    (h : findAmong type below (before ++ rest) = .ok found) :
    findAmong type below rest = .ok found := by
  induction before with
  | nil => exact h
  | cons c before ih =>
    have ih := ih fun c' hc' => hbefore c' (List.mem_cons_of_mem c hc')
    obtain ⟨htype, hbelow⟩ := hbefore c List.mem_cons_self
    rw [List.cons_append, findAmong] at h
    -- A node with a name is searched, and a token is passed over.
    split at h
    · cases hc : below c with
      | error e => rw [hc] at h; cases h
      | ok o =>
        obtain rfl := hbelow o hc
        rw [hc] at h
        exact ih h
    · exact ih h

/-- The search for a type ends at the base type. -/
private theorem eq_of_findBelow {depth : Nat} (hbase : Denotes base n)
    (hn : n.type ≠ "type_identifier") (h : n.findBelow "type_identifier" depth = .ok found) :
    found = some base := by
  induction hbase generalizing depth found with
  | itself hnamed htype => exact absurd htype hn
  | @inside n inner before after htype hchildren hbefore hnamed hinner ih =>
    cases depth with
    | zero => cases h
    | succ depth =>
      -- Nothing is found below the words in front.
      have hwords : ∀ c ∈ before, c.type ≠ "type_identifier" ∧
          ∀ o, c.findBelow "type_identifier" depth = .ok o → o = none := by
        intro c hc
        obtain ⟨hleaf, hctype⟩ := hbefore c hc
        refine ⟨hctype, fun o ho => ?_⟩
        cases depth with
        | zero => cases ho
        | succ depth =>
          rw [Node.findBelow, hleaf] at ho
          cases ho
          rfl
      rw [Node.findBelow, hchildren] at h
      have h := findAmong_append hwords h
      rw [findAmong, if_pos hnamed] at h
      split at h
      · rename_i hident
        cases h
        cases hinner with
        | itself => rfl
        | inside htype => rw [hident] at htype; exact absurd htype (by decide)
      · rename_i hident
        cases hbelow : inner.findBelow "type_identifier" depth with
        | error e => rw [hbelow] at h; cases h
        | ok o =>
          obtain rfl := ih hident hbelow
          rw [hbelow] at h
          cases h
          rfl

/-! ## Names -/

/-- A receiver goes by its base type. -/
theorem receiverName_eq {s : String} (hbase : Denotes base receiver)
    (htype : receiver.type = "parameter_list")
    (h : receiverName lib (Text.encode text) receiver = .ok s) :
    base.text (Text.encode text) = .ok s := by
  unfold receiverName at h
  cases hfound : receiver.findBelow "type_identifier" lib.callDepth with
  | error e => rw [hfound] at h; cases h
  | ok found =>
    obtain rfl := eq_of_findBelow hbase (by rw [htype]; decide) hfound
    rw [hfound] at h
    exact h

/-- A receiver that is searched to the end has a name. -/
theorem exists_receiverName_of_findBelow {parent : Option Node} (h : Conforms lib text)
    (hl : ⟨receiver, parent⟩ ∈ (lib.parse (Text.encode text)).located)
    (hfound : receiver.findBelow "type_identifier" lib.callDepth = .ok found) :
    ∃ s, receiverName lib (Text.encode text) receiver = .ok s := by
  unfold receiverName
  rw [hfound]
  -- Without a base type the receiver itself is the name.
  cases found with
  | none =>
    obtain ⟨s, hs⟩ := exists_text h hl
    refine ⟨stripped "()* " s, ?_⟩
    have hs : receiver.text (Text.encode text) = .ok s := hs
    simp only [bind, Except.bind, hs]
    rfl
  | some node =>
    obtain ⟨⟨above, hmem⟩, -⟩ := mem_of_findBelow parent hfound
    exact exists_text (l := ⟨node, above⟩) h (Syntax.Node.family_subset hl hmem)

/-- A receiver that is not too high has a name. -/
theorem exists_receiverName {parent : Option Node} (h : Conforms lib text)
    (hl : ⟨receiver, parent⟩ ∈ (lib.parse (Text.encode text)).located)
    (hheight : receiver.height < lib.callDepth) :
    ∃ s, receiverName lib (Text.encode text) receiver = .ok s := by
  cases hfound : receiver.findBelow "type_identifier" lib.callDepth with
  | error e =>
    obtain ⟨f, rfl, -, hle⟩ := Syntax.faultsIn_findBelow _ _ _ e hfound
    omega
  | ok found => exact exists_receiverName_of_findBelow h hl hfound

end Transclude.Go
