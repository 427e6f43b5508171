/-! # Sets of characters as ranges

A property of the Unicode standard is kept as the list of its ranges, in
increasing order and with no two that touch. -/

namespace Transclude.Text

/-- A set of code points: closed ranges in increasing order. -/
abbrev Ranges := List (Nat × Nat)

/-- `c` lies in one of the ranges. -/
def Ranges.has (ranges : Ranges) (c : Char) : Bool :=
  ranges.any fun (lo, hi) => lo ≤ c.toNat && c.toNat ≤ hi

end Transclude.Text
