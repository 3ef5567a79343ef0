import PenPlotter.Number.Binary64

/-!
# The numbers that plots are computed with

Scaling and filling are written over any type of numbers with the operations of `Scalar`.
Programs run at `Float`, whose operations round; the same definitions can be read over exact
numbers, where questions about the geometry have exact answers.

An instance promises no laws.  What a particular one satisfies is proved of that one.
-/

namespace PenPlotter

/-- A type of numbers with the operations that scaling and filling need. -/
class Scalar (K : Type) extends Add K, Sub K, Mul K, Div K where
  ofInt : Int → K
  abs : K → K
  below : K → K → Bool
  /-- The order in which corners are compared.  Any two numbers stand in it. -/
  order : K → K → Ordering
  /-- The nearest whole number, a half going away from zero. -/
  whole : K → Whole
  /-- The number as a count of passes, rounded up; zero if it is negative. -/
  ceiling : K → Nat
  /-- The tangent at the angle between the adjacent side, which comes first, and the longest side
  of a right triangle. -/
  slope : K → K → K
  /-- A count that falls with each subtraction of the first number from the second, as long as the
  subtraction takes effect and the difference stays positive. -/
  stepsLeft : K → K → Nat

/-- Doubles.  A positive double that is made smaller falls in rank, whatever is subtracted. -/
instance : Scalar Float where
  ofInt := Binary64.ofInt
  abs := Float.abs
  below := Float.lt
  order := Binary64.order
  whole := Binary64.whole
  ceiling := Binary64.ceiling
  slope := Binary64.slope
  stepsLeft _ x := (Binary64.rank x).toNat

end PenPlotter
