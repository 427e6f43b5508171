import Transclude.Numeral.Digit
import Transclude.Numeral.Shortest
import Transclude.Text.Blank

/-! # Floating-point numbers as text

`readReal?` takes a decimal with an optional sign, point and exponent, or one
of the words for infinity and not-a-number in any case.  Digits may be of any
script, single underscores may stand between digits, and blanks around the
number are ignored, save the information separators U+001C to U+001F, which are
no blanks here.

`showReal` writes the shortest decimal that reads back: positional from
`0.0001` up to below `10^16`, with an exponent of at least two digits
elsewhere. -/

namespace Transclude.Numeral

open Transclude.Text (isBlank)

/-- The blanks that may stand around a number. -/
def isMargin (c : Char) : Bool := isBlank c && !(0x1C ≤ c.toNat && c.toNat ≤ 0x1F)

/-- A decimal digit of any script becomes the ASCII digit of its value. -/
def latinDigit (c : Char) : Char :=
  match digit? c with
  | some d => Char.ofNat (0x30 + d)
  | none => c

/-- Remove the underscores; `none` if one of them does not stand between two digits. -/
def dropUnderscores (afterDigit : Bool) : List Char → Option (List Char)
  | [] => some []
  | '_' :: c :: rest =>
    if afterDigit && c.isDigit then (dropUnderscores true rest).map (c :: ·) else none
  | '_' :: [] => none
  | c :: rest => (dropUnderscores c.isDigit rest).map (c :: ·)

/-- Digits at the head of a text, and what follows. -/
def spanDigits (cs : List Char) : List Nat × List Char :=
  ((cs.takeWhile Char.isDigit).map (fun c => c.toNat - 0x30), cs.dropWhile Char.isDigit)

/-- The number with the given digits, most significant first. -/
def natOfDigits (digits : List Nat) : Nat := digits.foldl (fun n d => 10 * n + d) 0

/-- The exponent at the end of a number: nothing, or `e`, a sign if wanted, and digits. -/
def readExponent? : List Char → Option Int
  | [] => some 0
  | e :: cs =>
    if e = 'e' || e = 'E' then
      let (negative, cs) := match cs with
        | '-' :: cs => (true, cs)
        | '+' :: cs => (false, cs)
        | cs => (false, cs)
      let (digits, rest) := spanDigits cs
      if digits.isEmpty || !rest.isEmpty then none
      else some (if negative then -(natOfDigits digits : Int) else natOfDigits digits)
    else none

/-- The number nearest to `digits · 10^exponent`.  Far outside the range of exponents the answer
    is zero or infinity, and the power is not computed. -/
def nearestReal (digits : Nat) (exponent : Int) : Float :=
  let leading := (Nat.toDigits 10 digits).length + exponent
  if digits = 0 || leading < -400 then 0.0
  else if 400 < leading then 1.0 / 0.0
  else if exponent < 0 then Float.ofScientific digits true exponent.natAbs
  else Float.ofScientific digits false exponent.natAbs

/-- A number without sign. -/
def readMagnitude? (cs : List Char) : Option Float :=
  let word := cs.map Char.toLower
  if word = "inf".toList || word = "infinity".toList then some (1.0 / 0.0)
  else if word = "nan".toList then some (0.0 / 0.0)
  else
    let (whole, rest) := spanDigits cs
    let (fraction, rest) := match rest with
      | '.' :: rest => spanDigits rest
      | rest => ([], rest)
    if whole.isEmpty && fraction.isEmpty then none
    else (readExponent? rest).map fun exponent =>
      nearestReal (natOfDigits (whole ++ fraction)) (exponent - fraction.length)

/-- The floating-point number that a text stands for. -/
def readReal? (text : String) : Option Float :=
  let cs := ((text.toList.dropWhile isMargin).reverse.dropWhile isMargin).reverse
  (dropUnderscores false (cs.map latinDigit)).bind fun
    | '-' :: cs => (readMagnitude? cs).map (- ·)
    | '+' :: cs => readMagnitude? cs
    | cs => readMagnitude? cs

/-! ## Writing -/

/-- A decimal in positional notation, always with a point and a digit on either side of it. -/
def positional (digits : List Char) (exponent : Int) : List Char :=
  let point := digits.length + exponent
  if point ≤ 0 then '0' :: '.' :: (List.replicate (-point).toNat '0' ++ digits)
  else if 0 ≤ exponent then digits ++ List.replicate exponent.toNat '0' ++ ['.', '0']
  else digits.take point.toNat ++ '.' :: digits.drop point.toNat

/-- A decimal with one digit before the point and an exponent of at least two digits. -/
def scientific (digits : List Char) (exponent : Int) : List Char :=
  let leading := digits.length + exponent - 1
  let power := Nat.toDigits 10 leading.natAbs
  let power := if power.length < 2 then '0' :: power else power
  let mantissa := match digits with
    | d :: e :: rest => d :: '.' :: e :: rest
    | digits => digits
  mantissa ++ 'e' :: (if leading < 0 then '-' else '+') :: power

/-- The text of a floating-point number. -/
def showReal (x : Float) : String :=
  let bits := x.toBits
  let sign := if Nat.pow 2 63 ≤ bits.toNat then "-" else ""
  let magnitude := bits.toNat % Nat.pow 2 63
  let infinity := 2047 * Nat.pow 2 52
  if infinity < magnitude then "nan"
  else if magnitude = infinity then sign ++ "inf"
  else if magnitude = 0 then sign ++ "0.0"
  else
    let (m, q) := mantissaExponent bits
    let decimal := shortest m q
    let digits := Nat.toDigits 10 decimal.digits
    let leading := digits.length + decimal.exponent - 1
    let text := if -4 ≤ leading && leading < 16 then positional digits decimal.exponent
      else scientific digits decimal.exponent
    sign ++ String.ofList text

end Transclude.Numeral
