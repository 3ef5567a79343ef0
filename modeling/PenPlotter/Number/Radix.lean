import PenPlotter.Text

/-!
# Digits of any base

Numbers in bases up to sixteen, whose digits above nine are letters in either case: the codes of
characters, whole numbers behind `0x` and `0b`, and the numbers of hosts are written in them.
`Radix.number?` reads a run of digits, and refuses characters that are no digits of the base.
-/

namespace PenPlotter.Radix

/-- The value of a digit, in either letter case. -/
def digitValue? (c : Char) : Option Nat :=
  if c.isDigit then some (c.toNat - '0'.toNat)
  else if 'a' ≤ c ∧ c ≤ 'f' then some (c.toNat - 'a'.toNat + 10)
  else if 'A' ≤ c ∧ c ≤ 'F' then some (c.toNat - 'A'.toNat + 10)
  else none

/-- Whether a character is a hexadecimal digit. -/
def isHex (c : Char) : Bool :=
  (digitValue? c).isSome

/-- The number that digits stand for after the digits that stand for `n`, most significant digit
first. -/
def numberFrom? (base n : Nat) : Text → Option Nat
  | [] => some n
  | c :: rest =>
    ((digitValue? c).filter (· < base)).bind fun digit => numberFrom? base (base * n + digit) rest

/-- The number that digits of the base stand for; zero if there is none. -/
def number? (base : Nat) (digits : Text) : Option Nat :=
  numberFrom? base 0 digits

end PenPlotter.Radix
