import Transclude.Go.Extract
import Transclude.Proofs.List
import Transclude.Proofs.Session.Blame
import Transclude.Proofs.Syntax.Tree

/-!
# Declarations, whatever reads Go

The declarations of a text come in order, and there is only one error about them: the text is not
Go.  Everything else is a fault (`Undeclared`): a receiver is too high, the library has not
captured what the query names, or a piece of the text is not text by itself.  The same holds of what
is cut out of the text and of what is stored.
-/

namespace Transclude.Go

open Syntax (Node Located Match Garbled faultsIn_slice faultsIn_findBelow)

variable {lib : Library} {bytes : ByteArray} {d : Declaration} {ds : List Declaration}

/-! ## Faults -/

/-- The faults that may come up between the tree of a text and its declarations. -/
inductive Undeclared (lib : Library) (bytes : ByteArray) : Fault → Prop where
  /-- A receiver is as high as calls may be deep. -/
  | receiver {m : Match} {receiver : Located}
    (hmatch : m ∈ lib.findings declarationQuery (lib.parse bytes))
    (hcaptured : m.captured "receiver" = .ok receiver)
    (hheight : lib.callDepth ≤ receiver.node.height) : Undeclared lib bytes Fault.tooDeep
  /-- The library has not captured what the query names. -/
  | uncaptured {m : Match} {name : String}
    (hmatch : m ∈ lib.findings declarationQuery (lib.parse bytes))
    (hcaptures : m.captures.lookup name = none) : Undeclared lib bytes (Fault.missingKey name)
  /-- A piece of the text is not text by itself. -/
  | garbled {f : Fault} (h : Garbled bytes f) : Undeclared lib bytes f

/-- A capture goes wrong only if the library left it out. -/
private theorem faultsIn_captured {m : Match} (name : String)
    (hmatch : m ∈ lib.findings declarationQuery (lib.parse bytes)) :
    FaultsIn (Undeclared lib bytes) (m.captured name) := by
  unfold Match.captured
  cases hcaptures : m.captures.lookup name with
  | some l => exact .ok l
  | none => exact .fault (.uncaptured hmatch hcaptures)

/-- The text of a node goes wrong only if it is no UTF-8. -/
private theorem faultsIn_text (node : Node) :
    FaultsIn (Undeclared lib bytes) (node.text bytes) :=
  (faultsIn_slice bytes _ _).mono fun _ => .garbled

/-- The name of a receiver goes wrong by its text and by deep recursion. -/
private theorem faultsIn_receiverName {m : Match} {receiver : Located}
    (hmatch : m ∈ lib.findings declarationQuery (lib.parse bytes))
    (hcaptured : m.captured "receiver" = .ok receiver) :
    FaultsIn (Undeclared lib bytes) (receiverName lib bytes receiver.node) := by
  unfold receiverName
  refine FaultsIn.bind ((faultsIn_findBelow _ _ _).mono ?_) fun found => ?_
  · rintro f ⟨rfl, hheight⟩
    exact .receiver hmatch hcaptured hheight
  · cases found with
    | some node => exact faultsIn_text node
    | none => exact (faultsIn_text receiver.node).bind fun _ => .ok _

/-- What the library finds is made a declaration of, or there is a fault. -/
theorem faultsIn_ofMatch {m : Match}
    (hmatch : m ∈ lib.findings declarationQuery (lib.parse bytes)) :
    FaultsIn (Undeclared lib bytes) (ofMatch lib bytes m) := by
  unfold ofMatch
  -- Each capture is read in turn, and each may be left out.
  refine (faultsIn_captured "declaration" hmatch).bind fun declaration => ?_
  refine (faultsIn_captured "body" hmatch).bind fun body => ?_
  split
  · exact .ok none
  · refine (faultsIn_captured "name" hmatch).bind fun name => ?_
    refine (faultsIn_text name.node).bind fun text => ?_
    -- The pattern tells the kind: a function, a method or a type.
    split
    · exact .ok _
    · cases hcaptured : m.captured "receiver" with
      | error e =>
        intro e' he'
        cases he'
        exact faultsIn_captured "receiver" hmatch e hcaptured
      | ok receiver => exact (faultsIn_receiverName hmatch hcaptured).bind fun _ => .ok _
    · exact .ok _

/-- What is made of findings goes wrong by one of them. -/
private theorem faultsIn_ofMatches {ms : List Match}
    (hms : ms ⊆ lib.findings declarationQuery (lib.parse bytes)) :
    FaultsIn (Undeclared lib bytes) (ofMatches lib bytes ms) := by
  induction ms with
  | nil => exact .ok []
  | cons m rest ih =>
    unfold ofMatches
    have hmatch := hms (List.mem_cons_self ..)
    have hrest := ih fun m' hm' => hms (List.mem_cons_of_mem m hm')
    exact (faultsIn_ofMatch hmatch).bind fun _ => hrest.bind fun _ => .ok _

/-! ## The declarations of a text -/

/-- A text that is not Go has no declarations. -/
theorem declarations_of_hasError (h : (lib.parse bytes).hasError = true) :
    declarations lib bytes = .error (.of .invalidGo) := by
  unfold declarations
  rw [if_pos h]

/-- The declarations of a text that is Go are those that are found, in order. -/
theorem declarations_of_not_hasError (h : (lib.parse bytes).hasError = false) :
    declarations lib bytes =
      (ofMatches lib bytes (lib.findings declarationQuery (lib.parse bytes))).map fun found =>
        found.mergeSort fun d e => d.start ≤ e.start := by
  unfold declarations
  rw [if_neg (by rw [h]; exact Bool.false_ne_true)]
  cases ofMatches lib bytes (lib.findings declarationQuery (lib.parse bytes)) <;> rfl

/-- A text is not Go, there is a fault, or its declarations are known. -/
theorem declarations_cases (lib : Library) (bytes : ByteArray) :
    ((lib.parse bytes).hasError = true ∧ declarations lib bytes = .error (.of .invalidGo)) ∨
      (lib.parse bytes).hasError = false ∧
        ((∃ f, declarations lib bytes = .error (.fault f) ∧ Undeclared lib bytes f) ∨
          ∃ ds, declarations lib bytes = .ok ds) := by
  cases herror : (lib.parse bytes).hasError with
  | true => exact .inl ⟨rfl, declarations_of_hasError herror⟩
  | false =>
    rw [declarations_of_not_hasError herror]
    have hfaults := faultsIn_ofMatches (List.Subset.refl
      (lib.findings declarationQuery (lib.parse bytes)))
    -- One of the findings goes wrong, or all have entries.
    cases hfound : ofMatches lib bytes (lib.findings declarationQuery (lib.parse bytes)) with
    | ok found => exact .inr ⟨rfl, .inr ⟨_, rfl⟩⟩
    | error e =>
      obtain ⟨f, rfl, hf⟩ := hfaults e hfound
      exact .inr ⟨rfl, .inl ⟨f, rfl, hf⟩⟩

/-- Cutting out a declaration goes wrong only if the text there is no UTF-8. -/
theorem Declaration.faultsIn_snippet (name : String) (d : Declaration) :
    FaultsIn (Garbled bytes) (d.snippet bytes name) := by
  refine FaultsIn.bind ?_ fun definition => FaultsIn.bind ?_ fun body => .ok _
  · exact (faultsIn_slice bytes _ _).bind fun _ => .ok _
  · exact (faultsIn_slice bytes _ _).bind fun _ => .ok _

/-! ## Excerpts -/

end Transclude.Go
