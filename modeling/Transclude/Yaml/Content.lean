import Transclude.Failure.Fault

/-! # The content of scalars

The content of a scalar is a sequence of code points, not a `String`: an escape
in double quotes can write a surrogate. -/

namespace Transclude.Yaml

/-- The content of a scalar, as code points. -/
abbrev Content := List Nat

/-- The content that a text is. -/
def Content.ofChars (cs : List Char) : Content := cs.map Char.toNat

/-- How a scalar is written. -/
inductive Style where
  | plain
  | single
  | double
  | literal
  | folded
deriving Repr, DecidableEq

/-- Why a text has no meaning. -/
inductive Flaw where
  /-- The text is not YAML. -/
  | invalid
  /-- Reading it ends in a fault. -/
  | fault (f : Fault)
deriving Repr, DecidableEq

end Transclude.Yaml
