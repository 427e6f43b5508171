import Transclude.Yaml.Token

/-! # YAML trees

A tree is what a document writes down: nodes with their tags and anchors, and
aliases that refer to anchors by name. -/

namespace Transclude.Yaml

/-- What a node is marked with. -/
structure Marks where
  anchor : Option String := none
  /-- The tag with its handle replaced. -/
  tag : Option String := none
deriving Repr, DecidableEq

/-- A node as it is written. -/
inductive Tree where
  | aliasOf (anchor : String)
  | scalar (marks : Marks) (content : Content) (style : Style)
  | sequence (marks : Marks) (inFlow : Bool) (items : List Tree)
  | mapping (marks : Marks) (inFlow : Bool) (entries : List (Tree × Tree))
deriving Repr

namespace Tree

/-- The node that stands where nothing is written. -/
def empty (marks : Marks) : Tree := .scalar marks [] .plain

end Tree

end Transclude.Yaml
