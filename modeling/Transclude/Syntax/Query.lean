import Transclude.Syntax.Tree

/-! # Queries

A query is a list of patterns.  A pattern asks for a named node of a type with
certain nodes directly below it, in turn and perhaps with others between; such a
node may have to play a part.  What a pattern finds it may give a name: it
captures the node. -/

namespace Transclude.Syntax

/-- What a node is to look like. -/
inductive Pattern where
  | mk (type : String) (field capture : Option String) (parts : List Pattern)
deriving Repr

/-- The nodes that a pattern has captured, by name. -/
abbrev Captures := List (String × Located)

/-- A node that a pattern fits: the number of the pattern, and what it captures there. -/
structure Match where
  pattern : Nat
  captures : Captures

/-- What is found for an element of a list and for the elements behind it. -/
def choose {α β : Type} (f : α → List α → List β) : List α → List β
  | [] => []
  | a :: rest => f a rest ++ choose f rest

mutual

/-- The ways in which a node fits a pattern. -/
def Pattern.ways : Pattern → Located → List Captures
  | .mk type field capture parts, l =>
    if l.node.named && l.node.type = type && (field.isNone || l.node.field = field) then
      (waysInTurn parts (l.node.children.map fun child => ⟨child, some l.node⟩)).map
        ((capture.map fun name => (name, l)).toList ++ ·)
    else []

/-- The ways in which some nodes of a list fit patterns, in turn. -/
def waysInTurn : List Pattern → List Located → List Captures
  | [], _ => [[]]
  | pattern :: patterns, ls =>
    choose (fun l rest => (pattern.ways l).flatMap fun way =>
      (waysInTurn patterns rest).map (way ++ ·)) ls

end

/-- Patterns, numbered from zero. -/
abbrev Query := List Pattern

/-- Everything in a tree that fits a pattern of a query. -/
def Query.matchesIn (query : Query) (tree : Tree) : List Match :=
  tree.located.flatMap fun l => query.zipIdx.flatMap fun (pattern, i) =>
    (pattern.ways l).map fun captures => ⟨i, captures⟩

/-- The node that is captured under a name. -/
def Match.captured (m : Match) (name : String) : Except Failure Located :=
  match m.captures.lookup name with
  | some l => .ok l
  | none => .error (.fault (Fault.missingKey name))

end Transclude.Syntax
