import PenPlotter.Text

/-!
# Unsigned whole numbers of bounded size

The notation of counts and rates: an optional plus sign and decimal digits.  The digits are read
from left to right, and the first one that is no digit, or that makes the number too large, decides
what is wrong.
-/

namespace PenPlotter

/-- Why a text is not the notation of a number. -/
inductive UnsignedFault where
  | empty
  /-- A character is no digit, or there is only a sign. -/
  | invalidDigit
  | tooLarge
deriving DecidableEq, Repr

/-- The wording of a fault. -/
def UnsignedFault.message : UnsignedFault → String
  | empty => "cannot parse integer from empty string"
  | invalidDigit => "invalid digit found in string"
  | tooLarge => "number too large to fit in target type"

namespace Unsigned

/-- Reads digits behind a number that has been read already. -/
def readDigits (largest : Nat) : Nat → Text → Except UnsignedFault Nat
  | n, [] => .ok n
  | n, c :: rest =>
    if c.isDigit then
      let next := 10 * n + (c.toNat - '0'.toNat)
      if next ≤ largest then readDigits largest next rest else .error .tooLarge
    else .error .invalidDigit

/-- The number that a text is the notation of, if it is no larger than allowed. -/
def read (largest : Nat) : Text → Except UnsignedFault Nat
  | [] => .error .empty
  | ['+'] => .error .invalidDigit
  | '+' :: digits => readDigits largest 0 digits
  | digits => readDigits largest 0 digits

end Unsigned

end PenPlotter
