import PenPlotter.Command
import PenPlotter.Fault

/-!
# Figures and their definition

An object is defined between a command that starts the definition and one that ends it.  In between,
positions with the pen down are its corners; a position with the pen up is its centre, in case it
turns out to be a circle.  The number of corners decides what it is: none for a circle, two for a
polyline, three for a triangle, four for a square; any other number makes no figure.

A `Workpiece` holds the definition at hand, if one is, and the figure classified last.  Starting a
definition forgets the figure; ending one puts the new figure in its place.
-/

namespace PenPlotter

/-- A classified object.  Corners keep the order of definition. -/
inductive Figure where
  | none
  | circle (center : Position) (radius : Int)
  | polyline (a b : Position)
  | triangle (a b c : Position)
  | square (a b c d : Position)
deriving DecidableEq, Repr

namespace Figure

/-- The corners of a figure, in order; a circle has none. -/
def corners : Figure → List Position
  | none => []
  | circle .. => []
  | polyline a b => [a, b]
  | triangle a b c => [a, b, c]
  | square a b c d => [a, b, c, d]

/-- The commands that draw the outline of a figure.  A figure with corners is entered at its last
one and drawn once around. -/
def outline : Figure → List Command
  | circle center radius => [.fullCircle center radius]
  | figure =>
    match figure.corners.getLast? with
    | some last => .move last :: figure.corners.map .draw
    | Option.none => []

end Figure

/-- A definition that has been started. -/
structure Draft where
  corners : List Position
  /-- The last position with the pen up, or where circles are centred if there was none. -/
  center : Position
  radius : Int
deriving DecidableEq, Repr

namespace Draft

/-- The figure that a definition makes, if the number of its corners makes one. -/
def figure? (d : Draft) : Option Figure :=
  match d.corners with
  | [] => some (.circle d.center d.radius)
  | [a, b] => some (.polyline a b)
  | [a, b, c] => some (.triangle a b c)
  | [a, b, c, e] => some (.square a b c e)
  | _ => none

end Draft

/-- What a position was taken as. -/
inductive Capture where
  | center (p : Position)
  /-- A corner, and how many there were before it. -/
  | corner (index : Nat)
deriving DecidableEq, Repr

/-- The definition at hand and the figure classified last. -/
structure Workpiece where
  draft : Option Draft
  figure : Figure
deriving DecidableEq, Repr

namespace Workpiece

/-- No definition and no figure. -/
def empty : Workpiece :=
  ⟨none, .none⟩

/-- Starts a definition.  A definition at hand is given up and the figure is forgotten.  Until the
definition says otherwise, a circle has the given centre and radius. -/
def start (_ : Workpiece) (center : Position) (radius : Int) : Workpiece :=
  ⟨some ⟨[], center, radius⟩, .none⟩

/-- Takes a position into the definition at hand: a corner if the pen is down, the centre if it is
up. -/
def capture? (w : Workpiece) (p : Position) (down : Bool) : Option (Workpiece × Capture) :=
  w.draft.map fun d =>
    if down then
      ({ w with draft := some { d with corners := d.corners ++ [p] } }, .corner d.corners.length)
    else ({ w with draft := some { d with center := p } }, .center p)

/-- Takes a radius into the definition at hand. -/
def setRadius? (w : Workpiece) (radius : Int) : Option Workpiece :=
  w.draft.map fun d => { w with draft := some { d with radius } }

/-- Ends the definition at hand.  If its corners make no figure there is none from then on, and the
fault says how many there were.  Without a definition nothing happens. -/
def finish (w : Workpiece) (line : Nat) : Workpiece × Option Fault :=
  match w.draft with
  | none => (w, none)
  | some d =>
    match d.figure? with
    | some figure => (⟨none, figure⟩, none)
    | none => (⟨none, w.figure⟩, some (.malformedObject line d.corners.length))

end Workpiece

end PenPlotter
