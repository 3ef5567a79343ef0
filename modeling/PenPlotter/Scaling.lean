import PenPlotter.Position

/-!
# From plotter units to device units

A raw coordinate is shifted by its axis' offset, divided by its axis' divisor and multiplied by the
scale, in this order, and then rounded.  A displacement is not shifted, and a length is measured
along the horizontal axis.  What falls outside the device range has no image.
-/

namespace PenPlotter

/-- The map from plotter units to device units.  The divisors are plotter units per device unit. -/
structure Scaling (K : Type) where
  xDiv : K
  yDiv : K
  xOffset : K
  yOffset : K
  scale : K

namespace Scaling

variable {K : Type} [Scalar K]

/-- The device position of a raw point. -/
def place? (s : Scaling K) (p : Point K) : Option Position := do
  let x ← toCoordinate? ((p.x + s.xOffset) / s.xDiv * s.scale)
  let y ← toCoordinate? ((p.y + s.yOffset) / s.yDiv * s.scale)
  return ⟨x, y⟩

/-- The device units that a raw displacement goes. -/
def displace? (s : Scaling K) (d : Point K) : Option Position := do
  let x ← toCoordinate? (d.x / s.xDiv * s.scale)
  let y ← toCoordinate? (d.y / s.yDiv * s.scale)
  return ⟨x, y⟩

/-- The device units of a raw length. -/
def measure? (s : Scaling K) (length : K) : Option Int :=
  toCoordinate? (length / s.xDiv * s.scale)

variable {s : Scaling K} {p : Point K} {position : Position}

/-- A point has an image if both of its coordinates have. -/
theorem place?_eq_some_iff :
    s.place? p = some position ↔
      toCoordinate? ((p.x + s.xOffset) / s.xDiv * s.scale) = some position.x ∧
        toCoordinate? ((p.y + s.yOffset) / s.yDiv * s.scale) = some position.y := by
  obtain ⟨x, y⟩ := position
  simp [place?, Option.bind_eq_some_iff]

theorem displace?_eq_some_iff :
    s.displace? p = some position ↔
      toCoordinate? (p.x / s.xDiv * s.scale) = some position.x ∧
        toCoordinate? (p.y / s.yDiv * s.scale) = some position.y := by
  obtain ⟨x, y⟩ := position
  simp [displace?, Option.bind_eq_some_iff]

end Scaling

end PenPlotter
