import PenPlotter.Fill
import PenPlotter.Proofs.Binary64.Whole
import PenPlotter.Proofs.Fill.Selection

/-!
# Which corners a fill keeps

The corners of a square that has been filled are the outermost ones of the corners before, on each
of the four sides (`filled_square`).  The four are chosen independently of one another: a corner
that is outermost on no side is lost, and one that is outermost on two sides is doubled.

They are chosen among doubles.  Coordinates that are lossless, which means that they are doubles
themselves, come through that unchanged.
-/

namespace PenPlotter

open Binary64

/-! ## 1. Coordinates that come back from the doubles -/

/-- Whether a whole number is a device coordinate and a double. -/
def IsLossless (n : Int) : Prop :=
  IsCoordinate n ∧ IsDouble n

/-- Whether both coordinates are lossless. -/
def Point.IsLossless (p : Position) : Prop :=
  PenPlotter.IsLossless p.x ∧ PenPlotter.IsLossless p.y

theorem IsCoordinate.natAbs_le {n : Int} (h : IsCoordinate n) : n.natAbs ≤ 2 ^ 63 := by
  obtain ⟨hlow, hhigh⟩ := h
  simp only [lowestCoordinate, highestCoordinate] at hlow hhigh
  omega

theorem IsLossless.toCoordinate_ofInt {n : Int} (h : IsLossless n) :
    toCoordinate (Scalar.ofInt n : Float) = n := by
  obtain ⟨hcoordinate, hdouble⟩ := h
  have hwhole : whole (ofInt n) = .number n := whole_ofInt hdouble hcoordinate.natAbs_le
  obtain ⟨hlow, hhigh⟩ := hcoordinate
  change (whole (ofInt n)).clamp = n
  rw [hwhole, Whole.clamp]
  omega

/-- A double that is a coordinate is rounded to it. -/
theorem whole_of_toCoordinate? {x : Float} {n : Int} (h : toCoordinate? x = some n) :
    IsCoordinate n ∧ whole x = .number n := by
  have hwhole : (whole x).coordinate? = some n := h
  cases hx : whole x with
  | number k =>
    rw [hx, Whole.coordinate?, coordinate?] at hwhole
    split at hwhole
    · cases hwhole
      exact ⟨‹_›, rfl⟩
    · cases hwhole
  | infinite negative => rw [hx] at hwhole; cases hwhole
  | undefined => rw [hx] at hwhole; cases hwhole

/-- What a double is rounded to, if it is a coordinate, is lossless. -/
theorem isLossless_of_toCoordinate? {x : Float} {n : Int} (h : toCoordinate? x = some n) :
    IsLossless n := by
  obtain ⟨hcoordinate, hwhole⟩ := whole_of_toCoordinate? h
  exact ⟨hcoordinate, isDouble_of_whole hwhole⟩

theorem Point.IsLossless.position_ofPosition {p : Position} (h : p.IsLossless) :
    (Point.ofPosition p : Point Float).position = p := by
  simp only [Point.position, Point.ofPosition, Point.map, h.1.toCoordinate_ofInt,
    h.2.toCoordinate_ofInt]

theorem IsLossless.order_ofInt {n k : Int} (hn : IsLossless n) (hk : IsLossless k) :
    Scalar.order (Scalar.ofInt n : Float) (Scalar.ofInt k) = compare n k :=
  Binary64.order_ofInt hn.2 hk.2 hn.1.natAbs_le hk.1.natAbs_le

/-- Whether numbers are compared as the coordinates of some positions that they stand for. -/
def KeepsOrder (K : Type) [Scalar K] (corners : List Position) : Prop :=
  ∀ p ∈ corners, ∀ q ∈ corners,
    Scalar.order (Scalar.ofInt p.x : K) (Scalar.ofInt q.x) = compare p.x q.x ∧
      Scalar.order (Scalar.ofInt p.y : K) (Scalar.ofInt q.y) = compare p.y q.y

theorem keepsOrder_of_isLossless {corners : List Position}
    (hlossless : ∀ p ∈ corners, p.IsLossless) : KeepsOrder Float corners := by
  intro p hp q hq
  exact ⟨(hlossless p hp).1.order_ofInt (hlossless q hq).1,
    (hlossless p hp).2.order_ofInt (hlossless q hq).2⟩

/-- Doubles are compared by their rank. -/
instance : Std.TransCmp (Scalar.order : Float → Float → Ordering) :=
  transCmp_on compare rank

/-! ## 2. Sides -/

/-- A side of a figure. -/
inductive Side where
  | top
  | right
  | bottom
  | left
deriving DecidableEq, Repr

namespace Side

/-- The sides, in the order in which a filled square has its corners. -/
def all : List Side :=
  [top, right, bottom, left]

theorem mem_all (side : Side) : side ∈ all := by
  cases side <;> decide

/-- Whether a position is further out on a side than another one. -/
def Before : Side → Position → Position → Prop
  | top, p, q => q.y < p.y ∨ q.y = p.y ∧ q.x < p.x
  | right, p, q => q.x < p.x ∨ q.x = p.x ∧ p.y < q.y
  | bottom, p, q => p.y < q.y ∨ p.y = q.y ∧ p.x < q.x
  | left, p, q => p.x < q.x ∨ p.x = q.x ∧ q.y < p.y

instance : (side : Side) → (p q : Position) → Decidable (side.Before p q)
  | top, _, _ => inferInstanceAs (Decidable (_ ∨ _))
  | right, _, _ => inferInstanceAs (Decidable (_ ∨ _))
  | bottom, _, _ => inferInstanceAs (Decidable (_ ∨ _))
  | left, _, _ => inferInstanceAs (Decidable (_ ∨ _))

/-- Whether a position is one of some positions and none of them is further out on a side. -/
def IsOutermost (side : Side) (p : Position) (corners : List Position) : Prop :=
  p ∈ corners ∧ ∀ q ∈ corners, ¬ side.Before q p

instance (side : Side) (p : Position) (corners : List Position) :
    Decidable (side.IsOutermost p corners) :=
  inferInstanceAs (Decidable (_ ∧ _))

/-- No two positions are outermost on the same side. -/
theorem IsOutermost.eq {side : Side} {p q : Position} {corners : List Position}
    (hp : side.IsOutermost p corners) (hq : side.IsOutermost q corners) : p = q := by
  have hqp := hp.2 q hq.1
  have hpq := hq.2 p hp.1
  obtain ⟨px, py⟩ := p
  obtain ⟨qx, qy⟩ := q
  have hxy : px = qx ∧ py = qy := by
    cases side <;> simp only [Before] at hqp hpq <;> omega
  rw [hxy.1, hxy.2]

/-- What is outermost among some positions is so among fewer. -/
theorem IsOutermost.of_subset {side : Side} {p : Position} {fewer corners : List Position}
    (hp : side.IsOutermost p corners) (hmem : p ∈ fewer) (hfewer : fewer ⊆ corners) :
    side.IsOutermost p fewer :=
  ⟨hmem, fun q hq => hp.2 q (hfewer hq)⟩

/-- The order in which the outermost corner on a side comes first. -/
def first (K : Type) [Scalar K] : Side → Point K → Point K → Ordering
  | top => Quad.topFirst
  | right => Quad.rightFirst
  | bottom => Quad.bottomFirst
  | left => Quad.leftFirst

section

variable {K : Type} [Scalar K]

theorem first_eq_lt_iff (side : Side) {corners : List Position} (horder : KeepsOrder K corners)
    {p q : Position} (hp : p ∈ corners) (hq : q ∈ corners) :
    side.first K (.ofPosition p) (.ofPosition q) = .lt ↔ side.Before p q := by
  obtain ⟨hx, hy⟩ := horder p hp q hq
  obtain ⟨hx', hy'⟩ := horder q hq p hp
  cases side with
  | top =>
    simp only [first, Quad.topFirst, Point.ofPosition, Point.map, hx', hy']
    exact compare_then_eq_lt_iff _ _ _ _
  | right =>
    simp only [first, Quad.rightFirst, Point.ofPosition, Point.map, hx', hy]
    exact compare_then_eq_lt_iff _ _ _ _
  | bottom =>
    simp only [first, Quad.bottomFirst, Point.ofPosition, Point.map, hx, hy]
    exact compare_then_eq_lt_iff _ _ _ _
  | left =>
    simp only [first, Quad.leftFirst, Point.ofPosition, Point.map, hx, hy']
    exact compare_then_eq_lt_iff _ _ _ _

variable [Std.TransCmp (Scalar.order : K → K → Ordering)]

instance (side : Side) : Std.TransCmp (side.first K) :=
  match side with
  | top => inferInstanceAs (Std.TransCmp Quad.topFirst)
  | right => inferInstanceAs (Std.TransCmp Quad.rightFirst)
  | bottom => inferInstanceAs (Std.TransCmp Quad.bottomFirst)
  | left => inferInstanceAs (Std.TransCmp Quad.leftFirst)

end

end Side

/-! ## 3. The outermost corners -/

section

variable {K : Type} [Scalar K] [Std.TransCmp (Scalar.order : K → K → Ordering)]

/-- The corner that comes first on a side is the outermost one. -/
theorem exists_first (side : Side) (a : Position) (more : List Position)
    (horder : KeepsOrder K (a :: more)) :
    ∃ p, Quad.first (side.first K) (.ofPosition a) (more.map .ofPosition) = .ofPosition p ∧
      side.IsOutermost p (a :: more) := by
  obtain ⟨hmem, hbest⟩ :=
    Quad.first_spec (side.first K) (Point.ofPosition a) (more.map .ofPosition)
  rw [← List.map_cons] at hmem hbest
  obtain ⟨p, hp, hfirst⟩ := List.mem_map.mp hmem
  refine ⟨p, hfirst.symm, hp, ?_⟩
  intro q hq hbefore
  refine hbest (.ofPosition q) (List.mem_map_of_mem hq) ?_
  rw [← hfirst]
  exact (side.first_eq_lt_iff horder hq hp).mpr hbefore

/-- **Four positions in canonical order are the outermost one of each side**, when numbers are
compared as they are. -/
theorem exists_ofPositions_eq {a b c d : Position} (horder : KeepsOrder K [a, b, c, d]) :
    ∃ f : Side → Position, (∀ side : Side, side.IsOutermost (f side) [a, b, c, d]) ∧
      (Quad.ofPositions a b c d : Quad K) =
        Quad.map .ofPosition ⟨f .top, f .right, f .bottom, f .left⟩ := by
  obtain ⟨f, hf⟩ := Classical.axiomOfChoice fun side => exists_first side a [b, c, d] horder
  refine ⟨f, fun side => (hf side).2, ?_⟩
  have hfirst : ∀ side : Side,
      Quad.first (side.first K) (.ofPosition a) ([b, c, d].map .ofPosition) =
        .ofPosition (f side) := fun side => (hf side).1
  rw [Quad.map, ← hfirst .top, ← hfirst .right, ← hfirst .bottom, ← hfirst .left]
  rfl

end

/-- Among doubles that is so of lossless positions. -/
theorem ofPositions_eq {a b c d : Position} (hlossless : ∀ p ∈ [a, b, c, d], p.IsLossless) :
    ∃ f : Side → Position, (∀ side : Side, side.IsOutermost (f side) [a, b, c, d]) ∧
      (Quad.ofPositions a b c d : Quad Float) =
        Quad.map .ofPosition ⟨f .top, f .right, f .bottom, f .left⟩ :=
  exists_ofPositions_eq (keepsOrder_of_isLossless hlossless)

/-- **A filled square has the outermost corner of each side**, when the corners are lossless. -/
theorem filled_square {a b c d : Position} (hlossless : ∀ p ∈ [a, b, c, d], p.IsLossless) :
    ∃ f : Side → Position, (∀ side : Side, side.IsOutermost (f side) [a, b, c, d]) ∧
      (Figure.square a b c d).filled Float =
        .square (f .top) (f .right) (f .bottom) (f .left) := by
  obtain ⟨f, hf, hquad⟩ := ofPositions_eq hlossless
  have hposition : ∀ side : Side, (Point.ofPosition (f side) : Point Float).position = f side :=
    fun side => (hlossless (f side) (hf side).1).position_ofPosition
  refine ⟨f, hf, ?_⟩
  simp only [Figure.filled, hquad, Quad.positions, Quad.map, hposition]

/-! ## 4. What becomes of the corners -/

section

variable {f : Side → Position} {corners : List Position}

/-- A corner is among the outermost ones if it is outermost on some side. -/
theorem mem_map_all_iff (hf : ∀ side : Side, side.IsOutermost (f side) corners) (p : Position) :
    p ∈ Side.all.map f ↔ ∃ side : Side, side.IsOutermost p corners := by
  constructor
  · intro hp
    obtain ⟨side, -, rfl⟩ := List.mem_map.mp hp
    exact ⟨side, hf side⟩
  · rintro ⟨side, hp⟩
    rw [hp.eq (hf side)]
    exact List.mem_map_of_mem side.mem_all

/-- A corner is there once for each side on which it is outermost. -/
theorem count_map_all (hf : ∀ side : Side, side.IsOutermost (f side) corners) (p : Position) :
    (Side.all.map f).count p = Side.all.countP fun side => side.IsOutermost p corners := by
  rw [List.count, List.countP_map]
  refine List.countP_congr fun side _ => ?_
  simp only [Function.comp_apply, beq_iff_eq, decide_eq_true_eq]
  constructor
  · rintro rfl
    exact hf side
  · intro hp
    exact (hf side).eq hp

/-- **The outermost corners are all the corners exactly if each corner is outermost on as many sides
as there are corners equal to it.** -/
theorem perm_map_all_iff (hf : ∀ side : Side, side.IsOutermost (f side) corners) :
    (Side.all.map f).Perm corners ↔ ∀ p ∈ corners,
      (Side.all.countP fun side => side.IsOutermost p corners) = corners.count p := by
  rw [List.perm_iff_count]
  constructor
  · intro h p _
    rw [← count_map_all hf, h]
  · intro h p
    rw [count_map_all hf]
    by_cases hp : p ∈ corners
    · exact h p hp
    · rw [List.count_eq_zero.mpr hp, List.countP_eq_zero]
      intro side _ hside
      exact hp (of_decide_eq_true hside).1

end

end PenPlotter
