import Transclude.Go.Declaration
import Transclude.Proofs.Text.Piece

/-!
# The trees of Go

What the grammar of Go says of the nodes of a syntax tree, as far as declarations go: how the nodes
below a node lie in the text (`Laid`), and of which parts the nodes of a declaration consist
(`Regular`).  A library that reads a text by the grammar gives a tree whose nodes are like that, and
it finds in the tree what fits a query (`Conforms`).
-/

namespace Transclude.Go

open Syntax (Node Located slice)

/-! ## Parts of a node -/

/-- The nodes below that play certain parts. -/
def parts (fields : List String) (n : Node) : List Node :=
  n.children.filter fun c => c.field.any fields.contains

/-- The nodes below of a type. -/
def ofType (type : String) (n : Node) : List Node := n.children.filter (·.type = type)

/-- The part that a node plays, and what it stands for. -/
abbrev Label := Option String × Bool × String

/-- The label of a node. -/
def label (n : Node) : Label := (n.field, n.named, n.type)

/-- The label of a named node that plays a part. -/
def playing (field type : String) : Label := (some field, true, type)

/-- Nodes lie in turn between two positions. -/
def Laid (start : Nat) : List Node → Nat → Prop
  | [], stop => start ≤ stop
  | n :: rest, stop => start ≤ n.start ∧ n.start ≤ n.stop ∧ Laid n.stop rest stop

/-- The node starts with a word. -/
def Headed (n : Node) : Prop :=
  ∃ first ∈ n.children.head?, first.children = [] ∧ first.start < first.stop

/-- The node ends with a certain node. -/
def EndsWith (certain : Node → Bool) (n : Node) : Prop :=
  ∃ last ∈ n.children.getLast?, certain last = true ∧ last.stop = n.stop

/-- There is one pair of braces directly below the node, and it ends with the second. -/
structure Braced (n : Node) : Prop where
  opening : (ofType "\x7b" n).length = 1
  closing : (ofType "\x7d" n).length = 1
  ends : EndsWith (·.type = "\x7d") n

/-! ## Nodes of a declaration -/

/-- The parts of a function that matter. -/
abbrev functionFields : List String := ["receiver", "name", "body"]

/-- The parts of a type that matter. -/
abbrev specFields : List String := ["name", "type"]

/-- The node is a function, which has parts with certain labels and perhaps a block. -/
structure IsFunction (labels : List Label) (n : Node) : Prop where
  named : n.named = true
  headed : Headed n
  parts : (parts functionFields n).map label ∈
    [labels, labels ++ [playing "body" "block"]]
  ends : Go.parts ["body"] n ≠ [] → EndsWith (·.field = some "body") n

/-- Some nodes are a name and a type. -/
def areNameAndType : List Node → Bool
  | [name, type] =>
    label name = playing "name" "type_identifier" && type.field = some "type" && type.named
  | _ => false

/-- The node is the declaration of a type, with the node above. -/
structure IsSpec (l : Located) : Prop where
  named : l.node.named = true
  headed : Headed l.node
  parts : areNameAndType (parts specFields l.node) = true
  ends : EndsWith (·.field = some "type") l.node
  parent : ∃ p ∈ l.parent, p.type = "type_declaration"

/-- The declaration of types is a group of them. -/
def grouped (n : Node) : Bool := n.children.any (·.type = "(")

/-- The node is the declaration of types.  Outside of a group there is one of them. -/
structure IsGroup (n : Node) : Prop where
  headed : Headed n
  single : grouped n = false → (n.children.filter fun c => !c.children.isEmpty).length ≤ 1

/-- The types of nodes with braces directly below. -/
def bracedTypes : List String := ["block", "field_declaration_list", "interface_type"]

/-- What the grammar says of a node and the node above. -/
structure Regular (l : Located) : Prop where
  laid : Laid l.node.start l.node.children l.node.stop
  function : l.node.type = "function_declaration" →
    IsFunction [playing "name" "identifier"] l.node
  method : l.node.type = "method_declaration" →
    IsFunction [playing "receiver" "parameter_list", playing "name" "field_identifier"] l.node
  spec : l.node.type = "type_spec" → IsSpec l
  group : l.node.type = "type_declaration" → IsGroup l.node
  struct : l.node.type = "struct_type" →
    (ofType "field_declaration_list" l.node).map (·.named) = [true] ∧
      EndsWith (·.type = "field_declaration_list") l.node
  braced : l.node.type ∈ bracedTypes → Braced l.node
  word : l.node.type ∈ ["\x7b", "\x7d"] → l.node.children = []

/-! ## Trees -/

/-- A library reads a text by the grammar. -/
structure Conforms (lib : Library) (text : String) : Prop where
  regular : ∀ l ∈ (lib.parse (Text.encode text)).located, Regular l
  boundary : ∀ l ∈ (lib.parse (Text.encode text)).located,
    Text.Boundary text l.node.start ∧ Text.Boundary text l.node.stop
  spelled : ∀ l ∈ (lib.parse (Text.encode text)).located, l.node.type ∈ ["\x7b", "\x7d"] →
    (l.node.text (Text.encode text)).toOption = some l.node.type
  found : (lib.findings declarationQuery (lib.parse (Text.encode text))).Perm
    (declarationQuery.matchesIn (lib.parse (Text.encode text)))

/-! ## Deciding -/

section Decidable

instance Laid.decidable : (start : Nat) → (ns : List Node) → (stop : Nat) →
    Decidable (Laid start ns stop)
  | start, [], stop => inferInstanceAs (Decidable (start ≤ stop))
  | start, n :: rest, stop =>
    have := Laid.decidable n.stop rest stop
    inferInstanceAs (Decidable (start ≤ n.start ∧ n.start ≤ n.stop ∧ Laid n.stop rest stop))

variable (n : Node) (l : Located)

instance : Decidable (Headed n) :=
  inferInstanceAs (Decidable (∃ first ∈ n.children.head?, first.children = [] ∧ _))

instance (certain : Node → Bool) : Decidable (EndsWith certain n) :=
  inferInstanceAs (Decidable (∃ last ∈ n.children.getLast?, certain last = true ∧ _))

instance : Decidable (Braced n) :=
  decidable_of_iff (_ ∧ _ ∧ _) ⟨fun ⟨h, h', h''⟩ => ⟨h, h', h''⟩, fun h => ⟨h.1, h.2, h.3⟩⟩

instance (labels : List Label) : Decidable (IsFunction labels n) :=
  decidable_of_iff (_ ∧ _ ∧ _ ∧ _)
    ⟨fun ⟨h, h', h'', h'''⟩ => ⟨h, h', h'', h'''⟩, fun h => ⟨h.1, h.2, h.3, h.4⟩⟩

instance : Decidable (IsSpec l) :=
  decidable_of_iff (_ ∧ _ ∧ _ ∧ _ ∧ _)
    ⟨fun ⟨h, h', h'', h''', h''''⟩ => ⟨h, h', h'', h''', h''''⟩,
      fun h => ⟨h.1, h.2, h.3, h.4, h.5⟩⟩

instance : Decidable (IsGroup n) :=
  decidable_of_iff (_ ∧ _) ⟨fun ⟨h, h'⟩ => ⟨h, h'⟩, fun h => ⟨h.1, h.2⟩⟩

instance : Decidable (Regular l) :=
  decidable_of_iff (_ ∧ _ ∧ _ ∧ _ ∧ _ ∧ _ ∧ _ ∧ _)
    ⟨fun ⟨h₁, h₂, h₃, h₄, h₅, h₆, h₇, h₈⟩ => ⟨h₁, h₂, h₃, h₄, h₅, h₆, h₇, h₈⟩,
      fun h => ⟨h.1, h.2, h.3, h.4, h.5, h.6, h.7, h.8⟩⟩

end Decidable

end Transclude.Go
