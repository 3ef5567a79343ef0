import PenPlotter.Number.Scalar

/-!
# Points and device positions

A point has two coordinates of some type: doubles in the input, whole numbers on the device.  The
device counts in signed 64 bit words, so that only whole numbers of `deviceRange` are coordinates.
Arithmetic is done on unbounded whole numbers and the range is checked where a coordinate is made;
nothing wraps around.

There are two ways from a rounded number to a coordinate: `Whole.coordinate?` refuses what is out of
range, and `Whole.clamp` takes the nearest coordinate there is.
-/

namespace PenPlotter

/-- A point of the plane. -/
structure Point (α : Type) where
  x : α
  y : α
deriving DecidableEq, Repr

/-- The point with both coordinates mapped. -/
def Point.map {α β : Type} (f : α → β) (p : Point α) : Point β :=
  ⟨f p.x, f p.y⟩

/-- A point in device units, or the difference of two. -/
abbrev Position := Point Int

/-- Where the pen is before it has moved. -/
def Position.origin : Position :=
  ⟨0, 0⟩

/-- The smallest device coordinate. -/
def lowestCoordinate : Int :=
  -9223372036854775808

/-- The largest device coordinate. -/
def highestCoordinate : Int :=
  9223372036854775807

/-- The whole numbers that are device coordinates. -/
def IsCoordinate (n : Int) : Prop :=
  lowestCoordinate ≤ n ∧ n ≤ highestCoordinate

instance (n : Int) : Decidable (IsCoordinate n) :=
  inferInstanceAs (Decidable (_ ∧ _))

/-- A whole number as a device coordinate, if it is one. -/
def coordinate? (n : Int) : Option Int :=
  if IsCoordinate n then some n else none

theorem coordinate?_eq_some_iff {n m : Int} : coordinate? n = some m ↔ IsCoordinate n ∧ n = m := by
  unfold coordinate?
  split <;> simp_all

/-- The sum of two positions, unless it leaves the device range. -/
def Position.add? (p d : Position) : Option Position := do
  let x ← coordinate? (p.x + d.x)
  let y ← coordinate? (p.y + d.y)
  return ⟨x, y⟩

/-- A sum of positions is exact: nothing wraps around. -/
theorem Position.add?_eq_some_iff {p d q : Position} :
    p.add? d = some q ↔
      IsCoordinate (p.x + d.x) ∧ IsCoordinate (p.y + d.y) ∧ (⟨p.x + d.x, p.y + d.y⟩ : Position) = q := by
  simp only [Position.add?, Option.bind_eq_bind, Option.bind_eq_some_iff, coordinate?_eq_some_iff,
    Option.pure_def, Option.some.injEq]
  constructor
  · rintro ⟨_, ⟨hx, rfl⟩, _, ⟨hy, rfl⟩, rfl⟩
    exact ⟨hx, hy, rfl⟩
  · rintro ⟨hx, hy, rfl⟩
    exact ⟨_, ⟨hx, rfl⟩, _, ⟨hy, rfl⟩, rfl⟩

namespace Whole

/-- The device coordinate that a rounded number is.  An infinity is none, nor is what is not a
number, nor a whole number out of range. -/
def coordinate? : Whole → Option Int
  | .number n => PenPlotter.coordinate? n
  | .infinite _ => none
  | .undefined => none

/-- The device coordinate nearest to a rounded number; zero for what is not a number. -/
def clamp : Whole → Int
  | .number n => max lowestCoordinate (min n highestCoordinate)
  | .infinite true => lowestCoordinate
  | .infinite false => highestCoordinate
  | .undefined => 0

end Whole

section

variable {K : Type} [Scalar K]

/-- A number as a device coordinate, or nothing if it is out of range. -/
def toCoordinate? (x : K) : Option Int :=
  (Scalar.whole x).coordinate?

/-- The device coordinate nearest to a number. -/
def toCoordinate (x : K) : Int :=
  (Scalar.whole x).clamp

/-- The device position nearest to a point. -/
def Point.position (p : Point K) : Position :=
  p.map toCoordinate

/-- The point that a device position stands for. -/
def Point.ofPosition (p : Position) : Point K :=
  p.map Scalar.ofInt

end

end PenPlotter
