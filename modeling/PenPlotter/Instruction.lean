import PenPlotter.Position

/-!
# Plot instructions

What a plot program asks for, with raw coordinates: numbers in plotter units that have not been
scaled yet.
-/

namespace PenPlotter

/-- What a polygon mode command asks for: to start the definition of an object, or to finish and
classify it.  Anything else is not acted on. -/
inductive PolygonMode where
  | start
  | finish
  | other
deriving DecidableEq, Repr

/-- An instruction of a plot program.  Those that raise or lower the pen then go through points;
`edge` and `fill` are about the object defined last. -/
inductive Instruction (K : Type) where
  | reset
  | selectPen (n : Nat)
  | penUp (points : List (Point K))
  | penDown (points : List (Point K))
  | plotAbsolute (points : List (Point K))
  | plotRelative (deltas : List (Point K))
  | polygonMode (mode : PolygonMode)
  /-- Draw a circle, or give the radius of the object being defined. -/
  | circle (radius : K)
  | edge
  | fill
  | ignored
deriving DecidableEq, Repr

/-- The instruction with its numbers mapped. -/
def Instruction.map {α β : Type} (f : α → β) : Instruction α → Instruction β
  | .reset => .reset
  | .selectPen n => .selectPen n
  | .penUp points => .penUp (points.map (Point.map f))
  | .penDown points => .penDown (points.map (Point.map f))
  | .plotAbsolute points => .plotAbsolute (points.map (Point.map f))
  | .plotRelative deltas => .plotRelative (deltas.map (Point.map f))
  | .polygonMode mode => .polygonMode mode
  | .circle radius => .circle (f radius)
  | .edge => .edge
  | .fill => .fill
  | .ignored => .ignored

end PenPlotter
