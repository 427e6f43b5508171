import Transclude.Numeral.Digit

/-! # Integers in decimal

An integer is written with decimal digits of any script, a sign in front if
wanted, and single underscores between digits if wanted.  A numeral of more
than 4300 digits is refused; leading zeros count.  The length is judged as soon
as the digits have been read, so an overlong numeral is reported as such even
when something else follows it. -/

namespace Transclude.Numeral

/-- Why a text is not an integer. -/
inductive IntegerFault where
  | notANumeral
  | tooLong (digits : Nat)
deriving Repr, DecidableEq

/-- The most digits that a numeral may have. -/
def maxDigits : Nat := 4300

/-- The digits at the head of a text, with single underscores between them, and what follows.
    `afterDigit` says that a digit has just been read.  `none` when an underscore does not stand
    between digits, or when there is no digit. -/
def readDigits (afterDigit : Bool) : List Char → Option (List Nat × List Char)
  | [] => if afterDigit then some ([], []) else none
  | c :: rest =>
    match digit? c with
    | some d => (readDigits true rest).map fun (digits, rest) => (d :: digits, rest)
    | none =>
      if !afterDigit then none
      else if c = '_' then readDigits false rest
      else some ([], c :: rest)

/-- The number with the given digits, most significant first. -/
def ofDigits (digits : List Nat) : Nat := digits.foldl (fun n d => 10 * n + d) 0

/-- The natural number that a text without sign stands for. -/
def parseNat (cs : List Char) : Except IntegerFault Nat :=
  match readDigits false cs with
  | none => .error .notANumeral
  | some (digits, rest) =>
    if maxDigits < digits.length then .error (.tooLong digits.length)
    else if rest.isEmpty then .ok (ofDigits digits)
    else .error .notANumeral

/-- The integer that a text without blanks at its ends stands for. -/
def parseInt : List Char → Except IntegerFault Int
  | '-' :: cs => (parseNat cs).map fun n => -(n : Int)
  | '+' :: cs => (parseNat cs).map fun n => (n : Int)
  | cs => (parseNat cs).map fun n => (n : Int)

end Transclude.Numeral
