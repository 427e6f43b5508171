import Transclude.Failure
import Transclude.Text.Utf8

/-! # Syntax trees

A parser for a programming language gives a tree for every text, also for a text
that is not of the language: then the tree says that it has an error somewhere.

A node covers a piece of the text, given by positions in its bytes.  Most nodes
are named after what they stand for in the grammar.  The others are tokens, of
the type that they are spelled.  A node may play a named part in the node above,
its field. -/

namespace Transclude.Syntax

/-- A node of a syntax tree. -/
inductive Node where
  | mk (type : String) (named : Bool) (field : Option String) (start stop : Nat)
    (children : List Node)
deriving Repr

namespace Node

/-- What the node stands for; a token is spelled like its type. -/
def type : Node → String
  | mk type .. => type

/-- The node is not just a token. -/
def named : Node → Bool
  | mk _ named .. => named

/-- The part that the node plays in the node above. -/
def field : Node → Option String
  | mk _ _ field .. => field

/-- The position of the first byte. -/
def start : Node → Nat
  | mk _ _ _ start .. => start

/-- The position behind the last byte. -/
def stop : Node → Nat
  | mk _ _ _ _ stop _ => stop

/-- The nodes directly below, in order. -/
def children : Node → List Node
  | mk _ _ _ _ _ children => children

end Node

/-- The tree of a text. -/
structure Tree where
  root : Node
  /-- Some piece of the text could not be read. -/
  hasError : Bool

/-! ## Nodes in their places -/

/-- A node with the node above it. -/
structure Located where
  node : Node
  parent : Option Node := none

mutual

/-- A node and all nodes below it, each before those below it. -/
def Node.family (parent : Option Node) : Node → List Located
  | .mk type named field start stop children =>
    let node := .mk type named field start stop children
    ⟨node, parent⟩ :: families (some node) children

/-- Several nodes with all nodes below them. -/
def families (parent : Option Node) : List Node → List Located
  | [] => []
  | node :: rest => node.family parent ++ families parent rest

end

/-- All nodes of a tree. -/
def Tree.located (tree : Tree) : List Located := tree.root.family none

/-- The first named node of a type among nodes and the nodes below them, where `below` searches
    below a node. -/
def findAmong (type : String) (below : Node → Except Failure (Option Node)) :
    List Node → Except Failure (Option Node)
  | [] => .ok none
  | node :: rest =>
    if node.named then
      if node.type = type then .ok (some node)
      else do
        match ← below node with
        | some found => return some found
        | none => findAmong type below rest
    else findAmong type below rest

/-- The first named node of a type below a node, searched in depth.  Calls inside of each other go
    no deeper than `depth`. -/
def Node.findBelow (type : String) : (depth : Nat) → Node → Except Failure (Option Node)
  | 0, _ => .error (.fault Fault.tooDeep)
  | depth + 1, node => findAmong type (findBelow type depth) node.children

/-! ## Pieces of the text -/

/-- The text between two positions. -/
def slice (bytes : ByteArray) (start stop : Nat) : Except Failure String :=
  match Text.decode (bytes.extract start stop) with
  | .ok text => .ok text
  | .error fault => .error (.fault (Fault.undecodable fault))

/-- The text of a node. -/
def Node.text (bytes : ByteArray) (node : Node) : Except Failure String :=
  slice bytes node.start node.stop

end Transclude.Syntax
