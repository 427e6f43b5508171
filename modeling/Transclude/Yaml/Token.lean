import Transclude.Yaml.Content

/-! # YAML tokens

A YAML text is a sequence of tokens.  The structure that indentation gives to a
block is in the sequence too: a block collection has a token where it starts
and one where it ends. -/

namespace Transclude.Yaml

/-- A directive of a document. -/
inductive Pragma where
  | version (major minor : Nat)
  | tag (handle leader : String)
  | other
deriving Repr, DecidableEq

/-- A token. -/
inductive Token where
  | pragma (p : Pragma)
  | documentStart
  | documentEnd
  | blockSequenceStart
  | blockMappingStart
  | blockEnd
  | flowSequenceStart
  | flowSequenceEnd
  | flowMappingStart
  | flowMappingEnd
  | blockEntry
  | flowEntry
  | key
  | value
  | aliasOf (name : String)
  | anchor (name : String)
  | tag (handle : Option String) (suffix : String)
  | scalar (content : Content) (style : Style)
  | streamEnd
  /-- The text cannot be read beyond this point. -/
  | broken (flaw : Flaw)
deriving Repr, DecidableEq

end Transclude.Yaml
