import PenPlotter.Text

/-!
# Names in ASCII

The parts of a host name that are not ASCII are also written in ASCII, by a code of their own: first
the ASCII characters, then a hyphen, then a row of numbers that say which other characters are put
in between, and where.  `Punycode.decode?` reads it.

A number is written in digits of base 36, the least one first, and ends with the first digit that is
below a threshold.  The thresholds depend on a bias that follows the numbers read so far.
-/

namespace PenPlotter.Punycode

/-- The value of a digit. -/
def digitValue? (c : Char) : Option Nat :=
  if 'a' ≤ c ∧ c ≤ 'z' then some (c.toNat - 'a'.toNat)
  else if 'A' ≤ c ∧ c ≤ 'Z' then some (c.toNat - 'A'.toNat)
  else if c.isDigit then some (c.toNat - '0'.toNat + 26)
  else none

/-- The threshold of the digit at a place, which is 36 for the first one and 36 more for each
following one. -/
def threshold (place bias : Nat) : Nat :=
  max 1 (min 26 (place - bias))

/-- The largest number that counts. -/
def highest : Nat :=
  1 <<< 32 - 1

/-- The number that comes first in a text, and the text after it.  No digit may have a weight that
does not count. -/
def number? (place bias weight : Nat) : Text → Option (Nat × Text)
  | [] => none
  | c :: rest =>
    if highest < weight then none
    else
      (digitValue? c).bind fun digit =>
        let t := threshold place bias
        if digit < t then some (digit * weight, rest)
        else
          (number? (place + 36) bias (weight * (36 - t)) rest).map fun (n, rest) =>
            (digit * weight + n, rest)

/-- Scales a number down for the bias. -/
def scale (n : Nat) : Nat :=
  if 455 < n then 36 + scale (n / 35) else 36 * n / (n + 38)
termination_by n
decreasing_by exact Nat.div_lt_self (by omega) (by omega)

/-- The bias after a number, when `size` characters are there. -/
def bias (n size : Nat) (first : Bool) : Nat :=
  let n := if first then n / 700 else n / 2
  scale (n + n / size)

/-- Puts characters into a text as the numbers of a row say; `position` and `code` are those of the
character put in last. -/
def insertAll? (first : Bool) (b position code : Nat) (t row : Text) : Option Text :=
  if row = [] then some t
  else
    match number? 36 b 1 row with
    | none => none
    | some (n, rest) =>
      let size := t.length + 1
      let place := (position + n) % size
      let code := code + (position + n) / size
      if highest < position + n ∨ ¬ code.isValidChar ∨ row.length ≤ rest.length then none
      else
        insertAll? false (bias n size first) (place + 1) code
          (t.take place ++ Char.ofNat code :: t.drop place) rest
termination_by row.length

/-- The text that is written in ASCII; nothing if it is not well written. -/
def decode? (t : Text) : Option Text :=
  let row := (t.reverse.takeWhile (· ≠ '-')).reverse
  let before := t.take (t.length - row.length)
  if before = ['-'] then none
  else insertAll? true 72 0 128 before.dropLast row

end PenPlotter.Punycode
