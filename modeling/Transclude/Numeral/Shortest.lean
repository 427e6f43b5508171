/-! # The shortest decimal

A finite positive floating-point number is `m · 2^q`.  The decimals that read
back as this number form an interval around it, which contains its ends when
`m` is even.  `shortest` gives the decimal of fewest digits in that interval;
among those it takes the nearest, and of two equally near the even one. -/

namespace Transclude.Numeral

/-- A positive decimal `digits · 10^exponent`. -/
structure Decimal where
  digits : Nat
  exponent : Int
deriving Repr, DecidableEq

/-- `m · 2^q` of a finite positive number, from its bit pattern. -/
def mantissaExponent (bits : UInt64) : Nat × Int :=
  let fraction : Nat := bits.toNat % Nat.pow 2 52
  let field : Nat := bits.toNat / Nat.pow 2 52 % Nat.pow 2 11
  if field = 0 then (fraction, -1074) else (fraction + Nat.pow 2 52, (field : Int) - 1075)

/-- The factors that bring `x · 2^q` and `c · 10^s` to a common measure: compare
    `x * (scales q s).1` with `c * (scales q s).2`. -/
def scales (q s : Int) : Nat × Nat :=
  (Nat.pow 2 q.toNat * Nat.pow 10 (-s).toNat, Nat.pow 2 (-q).toNat * Nat.pow 10 s.toNat)

/-- The decimal exponent of the first digit of `x · 2^q`, for `x · 2^q` above `10^-400`. -/
def leadingExponent (x : Nat) (q : Int) : Int :=
  let (a, b) := scales q (-400)
  (Nat.toDigits 10 (x * a / b)).length - 401

/-- The decimal of `n` digits that reads back as `m · 2^q`, if there is one. -/
def withDigits? (m : Nat) (q : Int) (n : Nat) : Option Decimal :=
  -- Quarters of the last place, so that the ends of the interval are whole.
  let x := 4 * m
  let q := q - 2
  let below := if m = Nat.pow 2 52 && q ≠ -1076 then 1 else 2
  let s := leadingExponent x q + 1 - n
  let (a, b) := scales q s
  let inside (c : Nat) : Bool :=
    if m % 2 = 0 then (x - below) * a ≤ c * b && c * b ≤ (x + 2) * a
    else (x - below) * a < c * b && c * b < (x + 2) * a
  let low := x * a / b
  let gapLow := x * a - low * b
  let gapHigh := (low + 1) * b - x * a
  -- Above the last decimal of `n` digits comes a power of ten, which needs only one.
  let above : Decimal := if low + 1 = Nat.pow 10 n then ⟨1, s + n⟩ else ⟨low + 1, s⟩
  match inside low, inside (low + 1) with
  | false, false => none
  | true, false => some ⟨low, s⟩
  | false, true => some above
  | true, true =>
    if gapLow < gapHigh || (gapLow == gapHigh && low % 2 == 0) then some ⟨low, s⟩
    else some above

/-- The shortest decimal that reads back as `m · 2^q`; seventeen digits always suffice. -/
def shortest (m : Nat) (q : Int) : Decimal :=
  ((List.range' 1 17).findSome? (withDigits? m q)).getD ⟨m, 0⟩

end Transclude.Numeral
