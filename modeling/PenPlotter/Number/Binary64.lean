/-!
# Doubles: their exact value, their order and the whole numbers near them

Raw plot coordinates are binary64 numbers; device coordinates are whole numbers.  This module says
how one becomes the other.  A finite double is `± m · 2 ^ e` with `m` and `e` whole numbers, and all
rounding is done on `m` and `e` in exact arithmetic:

* `Binary64.whole` rounds to the nearest whole number, a half away from zero;
* `Binary64.ceiling` rounds up to a number of passes;
* `Binary64.ofInt` is the double nearest to a whole number, a tie going to the even mantissa;
* `Binary64.order` is the total order of doubles, in which `-0` is below `+0` and a NaN is above
  everything;
* `Binary64.hypotenuse` is the length of a right triangle's longest side, rounded once.

Sums, differences, products and quotients are those of `Float`.
-/

namespace PenPlotter

/-! ## 1. Whole numbers with infinities -/

/-- What a number rounds to: a whole number, one of the infinities, or nothing at all. -/
inductive Whole where
  | number (n : Int)
  | infinite (negative : Bool)
  | undefined
deriving DecidableEq, Repr

namespace Binary64

open Float.Model

/-- The whole number nearest to `m · 2 ^ e`; a half is rounded up. -/
def nearestNat (m : Nat) : Int → Nat
  | .ofNat k => m <<< k
  | .negSucc k => (m + 1 <<< k) >>> (k + 1)

/-- The smallest whole number that is not below `m · 2 ^ e`. -/
def ceilingNat (m : Nat) : Int → Nat
  | .ofNat k => m <<< k
  | .negSucc k => (m + (1 <<< (k + 1) - 1)) >>> (k + 1)

/-- The nearest whole number, a half going away from zero. -/
def whole (x : Float) : Whole :=
  match x.toModel.unpack with
  | .notANumber => .undefined
  | .infinity sign => .infinite (sign == .negative)
  | .zero _ => .number 0
  | .finite .positive m e _ => .number (nearestNat m e)
  | .finite .negative m e _ => .number (-(nearestNat m e : Int))

/-- The largest count of passes, and what an infinite count is taken for. -/
def mostPasses : Nat :=
  18446744073709551615

/-- A count of passes: the smallest whole number that is not below the double, from zero to
`mostPasses`.  What is not a number counts as zero. -/
def ceiling (x : Float) : Nat :=
  match x.toModel.unpack with
  | .infinity .positive => mostPasses
  | .finite .positive m e _ => min (ceilingNat m e) mostPasses
  | _ => 0

/-! ## 2. Doubles from whole numbers -/

/-- The double nearest to a whole number; a tie goes to the even mantissa. -/
def ofInt (n : Int) : Float :=
  .ofModel (Float.Model.ofInt n)

/-- The infinities. -/
def infinite (negative : Bool) : Float :=
  .ofModel (.pack (.infinity (if negative then .negative else .positive)))

/-- The double that is not a number. -/
def undefined : Float :=
  .ofModel (.pack .notANumber)

/-- The double nearest to `m · 10 ^ e`; a tie goes to the even mantissa. -/
def ofDecimal (negative : Bool) (m : Nat) (e : Int) : Float :=
  let size := Float.ofModel (Float.Model.ofScientific m e)
  if negative then -size else size

/-! ## 3. Order -/

/-- A whole number that rises with the double in the total order: the bit pattern read as sign and
magnitude, with `-0` just below `+0`. -/
def rank (x : Float) : Int :=
  let bits := x.toBits.toNat
  let sign := 9223372036854775808
  if bits < sign then bits else -((bits - sign : Nat) : Int) - 1

/-- The total order of doubles. -/
def order (x y : Float) : Ordering :=
  compare (rank x) (rank y)

/-! ## 4. Slopes -/

/-- The mantissa and exponent of a finite double without its sign. -/
def magnitude? (x : Float) : Option (Nat × Int) :=
  match x.toModel.unpack with
  | .zero _ => some (0, 0)
  | .finite _ m e _ => some (m, e)
  | _ => none

/-- The square root of `m · 2 ^ e`, rounded once. -/
def squareRoot (m : Nat) (e : Int) : Float :=
  if h : 0 < m then .ofModel (.pack (.sqrt .binary64 (.finite .positive m e h)))
  else ofInt 0

/-- The length of the side opposite the right angle, from the lengths of the other two.  The sum of
the squares is exact, so that only the root is rounded; an infinite side makes it infinite.

How precise the length is differs between systems, as it does for the cosine and the tangent, so
that nothing may depend on it: the definition is closed to proofs, which hold for any slope. -/
@[irreducible]
def hypotenuse (x y : Float) : Float :=
  if x.isInf || y.isInf then infinite false
  else
    match magnitude? x, magnitude? y with
    | some (m, e), some (n, f) =>
      let g := min e f
      let a := m <<< (e - g).toNat
      let b := n <<< (f - g).toNat
      squareRoot (a * a + b * b) (2 * g)
    | _, _ => undefined

/-- The tangent of the angle between the adjacent side and the longest side of a right triangle,
computed through the cosine.  A triangle without extent has slope zero, and so has one whose sides
give no cosine. -/
def slope (adjacent opposite : Float) : Float :=
  let longest := hypotenuse adjacent opposite
  if longest == ofInt 0 then ofInt 0
  else
    let cosine := adjacent / longest
    (if cosine < ofInt 1 then cosine else ofInt 1).acos.tan

end Binary64

end PenPlotter
