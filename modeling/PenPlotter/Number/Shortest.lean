import PenPlotter.Number.Numeral

/-!
# The shortest notation of a double

A double is written with the fewest digits that read back as it, in positional notation: digits, a
point, and at least one digit after the point.  There is never an exponent, however large or small
the number is.

The digits are found on grids.  The grid of exponent `k` holds the multiples of `10 ^ k`, and a
double has two neighbours on it.  `Shortest.digits?` tries the grids from the coarsest on which a
neighbour can read back to one finer than any double needs, and takes the first on which one does;
of two such neighbours it takes the nearer, and the upper one of two equally near.  A coarser grid
means fewer digits, so that the first success has the fewest.
-/

namespace PenPlotter.Shortest

/-- The quotient of `m · 2 ^ e` by `10 ^ k` as a fraction of natural numbers. -/
def fraction (m : Nat) (e k : Int) : Nat × Nat :=
  ((m <<< e.toNat) * Nat.pow 10 (-k).toNat, (1 <<< (-e).toNat) * Nat.pow 10 k.toNat)

/-- Whether `d · 10 ^ k` reads back as the positive double `x`. -/
def readsBack (x : Float) (d : Nat) (k : Int) : Bool :=
  Binary64.ofDecimal false d k == x

/-- The neighbour of the positive double `x`, which is `m · 2 ^ e`, on the grid of exponent `k`, if
one reads back as `x`. -/
def neighbour? (x : Float) (m : Nat) (e k : Int) : Option Nat :=
  let (num, den) := fraction m e k
  let low := num / den
  let nearLow := 2 * (num % den) < den
  if nearLow && readsBack x low k then some low
  else if readsBack x (low + 1) k then some (low + 1)
  else if readsBack x low k then some low
  else none

/-- The exponent of the coarsest grid tried for `m · 2 ^ e`.  The number is below
`2 ^ (log₂ m + e + 1)`, and hence below this power of ten, so that its neighbours on any coarser
grid are zero and more than ten times itself. -/
def coarsest (m : Nat) (e : Int) : Int :=
  (m.log2 + e + 1) * 30103 / 100000 + 1

/-- How many grids are tried.  The finest of them has more than 17 digits for every double. -/
def gridCount : Nat :=
  20

/-- The digits and the exponent of a positive double, which is `m · 2 ^ e`. -/
def digits? (x : Float) (m : Nat) (e : Int) : Option (Nat × Int) :=
  (List.range gridCount).findSome? fun (i : Nat) =>
    let k := coarsest m e - i
    (neighbour? x m e k).map fun d => (d, k)

/-- All digits of `m · 2 ^ e`: every double has finitely many. -/
def allDigits (m : Nat) (e : Int) : Nat × Int :=
  match e with
  | .ofNat k => (m <<< k, 0)
  | .negSucc k => (m * Nat.pow 5 (k + 1), .negSucc k)

/-- The number `d · 10 ^ k` in positional notation. -/
def positional (d : Nat) : Int → Text
  | .ofNat k => Text.ofNat d ++ List.replicate k '0' ++ ['.', '0']
  | .negSucc k =>
    let digits := Text.ofNat d
    let padded := List.replicate (k + 2 - digits.length) '0' ++ digits
    let split := padded.length - (k + 1)
    padded.take split ++ '.' :: padded.drop split

/-- The shortest notation of a double. -/
def text (x : Float) : Text :=
  match x.toModel.unpack with
  | .notANumber => ['N', 'a', 'N']
  | .infinity .positive => ['i', 'n', 'f']
  | .infinity .negative => ['-', 'i', 'n', 'f']
  | .zero .positive => ['0', '.', '0']
  | .zero .negative => ['-', '0', '.', '0']
  | .finite sign m e _ =>
    let (d, k) := (digits? x.abs m e).getD (allDigits m e)
    match sign with
    | .positive => positional d k
    | .negative => '-' :: positional d k

end PenPlotter.Shortest
