import PenPlotter.Command

/-!
# Four corners in canonical order

A square is filled by walking its outline again and again, each time one pen width further in.
For that its corners are put in canonical order, whatever order they were given in:

* left is the corner with the smallest `x`, of those the one with the larger `y`;
* bottom is the corner with the smallest `y`, of those the one with the smaller `x`;
* right is the corner with the largest `x`, of those the one with the smaller `y`;
* top is the corner with the largest `y`, of those the one with the larger `x`.

```text
  left ---------- top
   |               |
   |               |
  bottom ------- right
```

`Quad.stepInward` moves the corners in the order left, top, right, bottom, and measures each slope
against the neighbour as it stands at that moment.  How far a corner goes along the second axis is
shared out by a slope, whose measure is a parameter: programs use `Scalar.slope`.
-/

namespace PenPlotter

/-- Four corners in canonical order. -/
structure Quad (K : Type) where
  top : Point K
  right : Point K
  bottom : Point K
  left : Point K
deriving DecidableEq, Repr

namespace Quad

/-- The four corners, top, right, bottom and left. -/
def toList {K : Type} (q : Quad K) : List (Point K) :=
  [q.top, q.right, q.bottom, q.left]

/-- The four corners mapped. -/
def map {α β : Type} (f : Point α → Point β) (q : Quad α) : Quad β :=
  ⟨f q.top, f q.right, f q.bottom, f q.left⟩

variable {K : Type} [Scalar K]

/-! ## 1. Canonical order -/

/-- The order in which the left corner comes first. -/
def leftFirst (p q : Point K) : Ordering :=
  (Scalar.order p.x q.x).then (Scalar.order q.y p.y)

/-- The order in which the bottom corner comes first. -/
def bottomFirst (p q : Point K) : Ordering :=
  (Scalar.order p.y q.y).then (Scalar.order p.x q.x)

/-- The order in which the right corner comes first. -/
def rightFirst (p q : Point K) : Ordering :=
  (Scalar.order q.x p.x).then (Scalar.order p.y q.y)

/-- The order in which the top corner comes first. -/
def topFirst (p q : Point K) : Ordering :=
  (Scalar.order q.y p.y).then (Scalar.order q.x p.x)

/-- The first of some points in an order; of equal ones, the earliest. -/
def first (order : Point K → Point K → Ordering) (p : Point K) (more : List (Point K)) : Point K :=
  more.foldl (fun best q => if order q best = .lt then q else best) p

/-- Four points as the corners of a quadrilateral.  One point may become two corners. -/
def canonical (a b c d : Point K) : Quad K where
  top := first topFirst a [b, c, d]
  right := first rightFirst a [b, c, d]
  bottom := first bottomFirst a [b, c, d]
  left := first leftFirst a [b, c, d]

/-- The quadrilateral with the given device positions as corners. -/
def ofPositions (a b c d : Position) : Quad K :=
  canonical (.ofPosition a) (.ofPosition b) (.ofPosition c) (.ofPosition d)

/-- The corners as device positions. -/
def positions (q : Quad K) : Quad Int :=
  q.map Point.position

/-! ## 2. Room -/

/-- The distances that a further pass needs: from left to top and from bottom to right along the
horizontal axis, from bottom to left and from right to top along the vertical axis. -/
def gaps (q : Quad K) : List K :=
  [q.top.x - q.left.x, q.right.x - q.bottom.x, q.left.y - q.bottom.y, q.top.y - q.right.y]

/-- Whether every gap is more than two pen widths. -/
def hasRoom (q : Quad K) (w : K) : Bool :=
  q.gaps.all fun gap => Scalar.below (w + w) gap

/-- The widest gap, or zero if none is wider.  A gap that is not a number is passed over. -/
def widest (q : Quad K) : K :=
  q.gaps.foldl (fun best gap => if Scalar.below best gap then gap else best) (Scalar.ofInt 0)

/-- The most passes that are made: the pen widths in the widest gap, rounded up. -/
def passLimit (q : Quad K) (w : K) : Nat :=
  Scalar.ceiling (q.widest / w)

/-! ## 3. One pass -/

/-- How far apart two points are along the horizontal axis. -/
def across (p q : Point K) : K :=
  Scalar.abs (q.x - p.x)

/-- How far apart two points are along the vertical axis. -/
def along (p q : Point K) : K :=
  Scalar.abs (q.y - p.y)

/-- Moves the left corner in; the slope of the edge to the top is taken against the horizontal
axis. -/
def moveLeft (slope : K → K → K) (w : K) (q : Quad K) : Quad K :=
  let x := q.left.x + w
  let t := slope (across ⟨x, q.left.y⟩ q.top) (along ⟨x, q.left.y⟩ q.top)
  { q with left := ⟨x, q.left.y - (w - w * t)⟩ }

/-- Moves the top corner in; the slope of the edge to the right is taken against the vertical
axis. -/
def moveTop (slope : K → K → K) (w : K) (q : Quad K) : Quad K :=
  let t := slope (along q.top q.right) (across q.top q.right)
  { q with top := ⟨q.top.x - (w - w * t), q.top.y - w⟩ }

/-- Moves the right corner in; the slope of the edge to the bottom is taken against the horizontal
axis. -/
def moveRight (slope : K → K → K) (w : K) (q : Quad K) : Quad K :=
  let x := q.right.x - w
  let t := slope (across ⟨x, q.right.y⟩ q.bottom) (along ⟨x, q.right.y⟩ q.bottom)
  { q with right := ⟨x, q.right.y + (w - w * t)⟩ }

/-- Moves the bottom corner in; the slope of the edge to the left is taken against the vertical
axis. -/
def moveBottom (slope : K → K → K) (w : K) (q : Quad K) : Quad K :=
  let t := slope (along q.bottom q.left) (across q.bottom q.left)
  { q with bottom := ⟨q.bottom.x + (w - w * t), q.bottom.y + w⟩ }

/-- Moves every corner about one pen width in, one after the other. -/
def stepInward (slope : K → K → K) (w : K) (q : Quad K) : Quad K :=
  moveBottom slope w (moveRight slope w (moveTop slope w (moveLeft slope w q)))

/-! ## 4. Strokes -/

/-- One turn around the corners, which begins and ends at the left one. -/
def loop (q : Quad K) : List Command :=
  [q.left, q.top, q.right, q.bottom, q.left].map fun corner => .draw corner.position

/-- The quadrilaterals of the passes: one step in after the other while there is room, and no more
than the given number. -/
def passes (slope : K → K → K) (w : K) : Nat → Quad K → List (Quad K)
  | 0, _ => []
  | limit + 1, q =>
    if q.hasRoom w then
      let next := q.stepInward slope w
      next :: passes slope w limit next
    else []

/-- The strokes that fill a quadrilateral: a move to its left corner, then a turn for each pass. -/
def fillStrokes (w : K) (q : Quad K) : List Command :=
  .move q.left.position :: (passes Scalar.slope w (q.passLimit w) q).flatMap loop

end Quad

end PenPlotter
