import Mathlib.Algebra.Order.Round
import Mathlib.Data.Rat.Floor
import Mathlib.Order.Compare
import Mathlib.Tactic.Linarith
import PenPlotter.Position
import PenPlotter.Proofs.Binary64.Whole

/-!
# Exact numbers

Rational numbers as the numbers that plots are computed with.  Nothing is rounded on the way, so
that all that is lost is what a device coordinate is off by: half a unit at most
(`abs_sub_roundAway_le`).

A double stands for a rational number, as a number of units (`Binary64.toRational`).
-/

namespace PenPlotter

/-- The whole number nearest to a rational one, a half going away from zero. -/
def roundAway (q : ℚ) : ℤ :=
  if 0 ≤ q then round q else -round (-q)

/-- Rational numbers.  As the adjacent side comes first, a slope is the other side divided by it. -/
instance : Scalar ℚ where
  ofInt n := n
  abs q := |q|
  below p q := p < q
  order := compare
  whole q := .number (roundAway q)
  ceiling q := ⌈q⌉.toNat
  slope adjacent opposite := opposite / adjacent
  stepsLeft w q := ⌈q / w⌉.toNat

/-- Rational numbers are compared by their order. -/
instance : Std.TransCmp (Scalar.order : ℚ → ℚ → Ordering) :=
  inferInstanceAs (Std.TransCmp (compare : ℚ → ℚ → Ordering))

theorem below_eq_true_iff {p q : ℚ} : Scalar.below p q = true ↔ p < q :=
  decide_eq_true_iff

/-- The slope of two sides is not negative. -/
theorem slope_nonneg {adjacent opposite : ℚ} (hadjacent : 0 ≤ adjacent) (hopposite : 0 ≤ opposite) :
    0 ≤ Scalar.slope adjacent opposite :=
  div_nonneg hopposite hadjacent

/-- What is lost by rounding is at most a half. -/
theorem abs_sub_roundAway_le (q : ℚ) : |q - roundAway q| ≤ 1 / 2 := by
  rw [roundAway]
  split
  · exact abs_sub_round q
  · rw [Int.cast_neg, sub_neg_eq_add, ← abs_neg, neg_add, ← sub_eq_add_neg]
    exact abs_sub_round (-q)

/-- A device coordinate is the rounded number. -/
theorem toCoordinate?_eq_some_iff {q : ℚ} {n : Int} :
    toCoordinate? q = some n ↔ IsCoordinate n ∧ n = roundAway q := by
  change coordinate? (roundAway q) = some n ↔ _
  rw [coordinate?]
  split
  · grind
  · grind

/-- Between whole numbers, what a number is rounded to stays between them. -/
theorem roundAway_mem {low high : Int} {q : ℚ} (hq : low ≤ q) (hq' : q ≤ high) :
    low ≤ roundAway q ∧ roundAway q ≤ high := by
  obtain ⟨hbelow, habove⟩ := abs_le.mp (abs_sub_roundAway_le q)
  have hround : (low : ℚ) < (roundAway q + 1 : Int) := by
    rw [Int.cast_add, Int.cast_one]
    linarith
  have hround' : (roundAway q : ℚ) < (high + 1 : Int) := by
    rw [Int.cast_add, Int.cast_one]
    linarith
  have hlow := Int.cast_lt.mp hround
  have hhigh := Int.cast_lt.mp hround'
  omega

section

variable {low high : Int} (hlow : IsCoordinate low) (hhigh : IsCoordinate high) {q : ℚ}
  (hq : low ≤ q) (hq' : q ≤ high)

include hlow hhigh hq hq'

/-- Between device coordinates, nothing but rounding is done to a number. -/
theorem toCoordinate_eq_roundAway : toCoordinate q = roundAway q := by
  obtain ⟨hround, hround'⟩ := roundAway_mem hq hq'
  obtain ⟨hlowest, -⟩ := hlow
  obtain ⟨-, hhighest⟩ := hhigh
  change max lowestCoordinate (min (roundAway q) highestCoordinate) = roundAway q
  omega

/-- **Between device coordinates, what a number is rounded to stays between them.** -/
theorem toCoordinate_mem : low ≤ toCoordinate q ∧ toCoordinate q ≤ high := by
  rw [toCoordinate_eq_roundAway hlow hhigh hq hq']
  exact roundAway_mem hq hq'

end

/-- Device coordinates are rounded to themselves. -/
theorem toCoordinate_intCast {n : Int} (h : IsCoordinate n) : toCoordinate (n : ℚ) = n := by
  obtain ⟨hlow, hhigh⟩ := toCoordinate_mem h h (le_refl (n : ℚ)) (le_refl (n : ℚ))
  exact le_antisymm hhigh hlow

namespace Binary64

/-- The rational number that a finite double stands for; zero for the others. -/
def toRational (x : Float) : ℚ :=
  (units? x).getD 0 / unitsInOne

end Binary64

end PenPlotter
