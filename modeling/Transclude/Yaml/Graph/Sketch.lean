import Transclude.Yaml.Graph

/-! # Sketches

A sketch is a tree again: what will be written of a graph without aliases.  A
node that is reached a second time is written as an alias, so a sketch is finite
even when the graph has cycles.  Anchors are `id001`, `id002` and so on, in the
order in which second visits happen. -/

namespace Transclude.Yaml

/-- What will be written of a node. -/
inductive Sketch where
  | aliasOf (anchor : String)
  | scalar (anchor : Option String) (tag : String) (content : Content) (style : Style)
  | sequence (anchor : Option String) (tag : String) (inFlow : Bool) (items : List Sketch)
  | mapping (anchor : Option String) (tag : String) (inFlow : Bool)
      (entries : List (Sketch × Sketch))
deriving Repr

namespace Sketch

/-- The name of the anchor with number `n`. -/
def anchorText (n : Nat) : String :=
  let digits := Nat.toDigits 10 n
  "id" ++ String.ofList (List.replicate (3 - digits.length) '0' ++ digits)

/-- The nodes that have been visited, and those visited again, in order. -/
structure Visits where
  seen : List Nat := []
  again : List Nat := []

/-- Visit a node and all that it leads to.  A node is entered once, so the depth is bounded by the
    number of nodes. -/
def visit (g : Graph) : Nat → Nat → Visits → Visits
  | 0, _, v => v
  | fuel + 1, i, v =>
    if v.seen.contains i then
      if v.again.contains i then v else { v with again := v.again ++ [i] }
    else
      let children := (g[i]?.map Node.children).getD []
      children.foldl (fun v child => visit g fuel child v) { v with seen := i :: v.seen }

/-- The anchor of a node that is visited more than once. -/
def anchorOf? (again : List Nat) (i : Nat) : Option String :=
  (again.idxOf? i).map fun n => anchorText (n + 1)

/-- The sketches of several nodes, where `one` makes the sketch of a node. -/
def sketchItems (one : Nat → List Nat → Sketch × List Nat) :
    List Nat → List Nat → List Sketch × List Nat
  | [], seen => ([], seen)
  | i :: is, seen =>
    let (item, seen) := one i seen
    let (items, seen) := sketchItems one is seen
    (item :: items, seen)

/-- The sketches of several entries. -/
def sketchEntries (one : Nat → List Nat → Sketch × List Nat) :
    List (Nat × Nat) → List Nat → List (Sketch × Sketch) × List Nat
  | [], seen => ([], seen)
  | (k, v) :: rest, seen =>
    let (key, seen) := one k seen
    let (value, seen) := one v seen
    let (entries, seen) := sketchEntries one rest seen
    ((key, value) :: entries, seen)

/-- The sketch of a node, where `seen` holds the nodes already sketched. -/
def sketch (g : Graph) (again : List Nat) : Nat → Nat → List Nat → Sketch × List Nat
  | 0, _, seen => (.aliasOf "", seen)
  | fuel + 1, i, seen =>
    let anchor := anchorOf? again i
    if seen.contains i then (.aliasOf (anchor.getD ""), seen)
    else
      let seen := i :: seen
      match g[i]? with
      | some (.scalar tag content style) => (.scalar anchor tag content style, seen)
      | some (.sequence tag inFlow items) =>
        let (items, seen) := sketchItems (sketch g again fuel) items seen
        (.sequence anchor tag inFlow items, seen)
      | some (.mapping tag inFlow entries) =>
        let (entries, seen) := sketchEntries (sketch g again fuel) entries seen
        (.mapping anchor tag inFlow entries, seen)
      | _ => (.aliasOf "", seen)

/-- The sketch of a graph without aliases, from node `root` on. -/
def ofGraph (g : Graph) (root : Nat) : Sketch :=
  let fuel := g.size + 2
  (sketch g (visit g fuel root {}).again fuel root []).1

end Sketch

end Transclude.Yaml
