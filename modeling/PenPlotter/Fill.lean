import PenPlotter.Figure
import PenPlotter.Quad

/-!
# Filling figures

A plotter draws lines only, so that an area is filled with strokes one pen width apart: circles
inside a circle (`ringRadii`), turns inside a square (`Quad.fillStrokes`).  Triangles and polylines
get no strokes.

The circles begin one pen width inside the outline and go on while what is left is wider than the
pen.  Taking a pen width off a radius may change nothing, when the numbers are too coarse for so
thin a pen; then there would be circles without end, and the fill is refused.
-/

namespace PenPlotter

section

variable {K : Type} [Scalar K]

/-- The radii of the circles inside a circle of radius `r`, each one pen width less than the one
before.  There are none to give if they would not end. -/
def ringRadii? (w r : K) : Option (List K) :=
  if Scalar.below w r then
    if _ : Scalar.stepsLeft w (r - w) < Scalar.stepsLeft w r then
      (ringRadii? w (r - w)).map ((r - w) :: ·)
    else none
  else some []
termination_by Scalar.stepsLeft w r

/-- The strokes that fill a circle. -/
def circleStrokes? (w : K) (center : Position) (radius : Int) : Option (List Command) :=
  (ringRadii? w (Scalar.ofInt radius)).map
    (List.map fun r => .fullCircle center (toCoordinate r))

/-- The strokes that fill a figure with a pen of the given width. -/
def Figure.fillStrokes? (w : K) : Figure → Option (List Command)
  | .circle center radius => circleStrokes? w center radius
  | .square a b c d => some ((Quad.ofPositions a b c d).fillStrokes w)
  | .none | .polyline .. | .triangle .. => some []

/-- A figure after it has been filled: the corners of a square are left in canonical order, as they
come back from the numbers they were computed with.  `Figure.filled K` computes with `K`. -/
def Figure.filled (K : Type) [Scalar K] : Figure → Figure
  | .square a b c d =>
    let q := (Quad.ofPositions a b c d : Quad K).positions
    .square q.top q.right q.bottom q.left
  | figure => figure

end

end PenPlotter
