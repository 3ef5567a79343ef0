import PenPlotter.Proofs.Binary64.Decimal
import PenPlotter.Proofs.Fill.Corners

/-!
# Canonical order does not depend on the order given

Each corner of a quadrilateral is the outermost of four points on its side.  Where numbers are
totally ordered, and compare as equal only if they are the same, one point alone is outermost on a
side (`Quad.corner_eq_of_forall`).  So it does not matter in which order the points are given, nor
whether those that are outermost on no side are there at all (`Quad.canonical_eq_of_subset`); and
the corners of a quadrilateral in canonical order are left as they are.

Doubles are such numbers.  The two zeros are told apart by their order, and what is not a number
has its place above all others.  A `Float` is one thing if it is not a number.  Where that has a
sign and a payload, it is the bit patterns that stand in order (`BitPattern`), with what is not a
number at both ends; they are such numbers as well.
-/

namespace PenPlotter

/-- Doubles compare as equal only if they are the same. -/
instance : Std.LawfulEqCmp (Scalar.order : Float → Float → Ordering) where
  toReflCmp := inferInstance
  eq_of_compare h := Binary64.eq_of_rank_eq (Std.compare_eq_iff_eq.mp h)

/-- A double that is known by all its bits, with which it computes as a `Float` does. -/
structure BitPattern where
  bits : UInt64
deriving DecidableEq

namespace BitPattern

/-- The double with a bit pattern. -/
def toFloat (x : BitPattern) : Float :=
  .ofBits x.bits

/-- The bit pattern of a double. -/
def ofFloat (x : Float) : BitPattern :=
  ⟨x.toBits⟩

/-- The bit pattern read as sign and magnitude, a negative one just below the positive ones. -/
def rank (x : BitPattern) : Int :=
  let bits := x.bits.toNat
  let sign := 9223372036854775808
  if bits < sign then bits else -((bits - sign : Nat) : Int) - 1

instance : Scalar BitPattern where
  add x y := ofFloat (x.toFloat + y.toFloat)
  sub x y := ofFloat (x.toFloat - y.toFloat)
  mul x y := ofFloat (x.toFloat * y.toFloat)
  div x y := ofFloat (x.toFloat / y.toFloat)
  ofInt n := ofFloat (Binary64.ofInt n)
  abs x := ofFloat x.toFloat.abs
  below x y := x.toFloat.lt y.toFloat
  order x y := compare x.rank y.rank
  whole x := Binary64.whole x.toFloat
  ceiling x := Binary64.ceiling x.toFloat
  slope x y := ofFloat (Binary64.slope x.toFloat y.toFloat)
  stepsLeft _ x := (Binary64.rank x.toFloat).toNat

instance : Std.TransCmp (Scalar.order : BitPattern → BitPattern → Ordering) :=
  transCmp_on compare rank

/-- Bit patterns compare as equal only if they are the same. -/
instance : Std.LawfulEqCmp (Scalar.order : BitPattern → BitPattern → Ordering) where
  toReflCmp := inferInstance
  eq_of_compare {x y} h := by
    obtain ⟨a⟩ := x
    obtain ⟨b⟩ := y
    have hrank : rank ⟨a⟩ = rank ⟨b⟩ := Std.compare_eq_iff_eq.mp h
    have ha := a.toNat_lt
    have hb := b.toNat_lt
    refine congrArg BitPattern.mk (UInt64.toNat_inj.mp ?_)
    simp only [rank] at hrank
    split at hrank
    · split at hrank <;> omega
    · split at hrank <;> omega

end BitPattern

/-! ## 1. The corner of a side -/

namespace Quad

section

variable {K : Type}

/-- The corner on a side. -/
def corner (q : Quad K) : Side → Point K
  | .top => q.top
  | .right => q.right
  | .bottom => q.bottom
  | .left => q.left

theorem eq_of_corner_eq {q r : Quad K} (h : ∀ side, q.corner side = r.corner side) : q = r := by
  obtain ⟨qt, qr, qb, ql⟩ := q
  obtain ⟨rt, rr, rb, rl⟩ := r
  obtain rfl : qt = rt := h .top
  obtain rfl : qr = rr := h .right
  obtain rfl : qb = rb := h .bottom
  obtain rfl : ql = rl := h .left
  rfl

theorem mem_toList_iff {q : Quad K} {p : Point K} :
    p ∈ q.toList ↔ ∃ side, p = q.corner side := by
  constructor
  · intro hp
    simp only [toList, List.mem_cons, List.not_mem_nil, or_false] at hp
    rcases hp with rfl | rfl | rfl | rfl
    · exact ⟨.top, rfl⟩
    · exact ⟨.right, rfl⟩
    · exact ⟨.bottom, rfl⟩
    · exact ⟨.left, rfl⟩
  · rintro ⟨side, rfl⟩
    cases side <;> simp [corner, toList]

variable [Scalar K] [Std.TransCmp (Scalar.order : K → K → Ordering)] {a b c d : Point K}

/-- The corner on a side is one of the points, and no point comes before it there. -/
theorem corner_canonical_spec (side : Side) :
    (canonical a b c d).corner side ∈ [a, b, c, d] ∧
      ∀ p ∈ [a, b, c, d], side.first K p ((canonical a b c d).corner side) ≠ .lt := by
  have hspec := first_spec (side.first K) a [b, c, d]
  cases side <;> exact hspec

theorem toList_canonical_subset : (canonical a b c d).toList ⊆ [a, b, c, d] := by
  intro p hp
  obtain ⟨side, rfl⟩ := mem_toList_iff.mp hp
  exact (corner_canonical_spec side).1

end

end Quad

section

variable {K : Type} [Scalar K] [Std.TransCmp (Scalar.order : K → K → Ordering)]
  [Std.LawfulEqCmp (Scalar.order : K → K → Ordering)]

/-! ## 2. Points in the order of a side -/

/-- Only the same point has the same place in the order of a side. -/
instance (side : Side) : Std.LawfulEqCmp (side.first K) where
  toReflCmp := inferInstance
  eq_of_compare {p q} h := by
    obtain ⟨px, py⟩ := p
    obtain ⟨qx, qy⟩ := q
    have hxy : px = qx ∧ py = qy := by
      cases side with
      | top =>
        obtain ⟨hy, hx⟩ := Ordering.then_eq_eq.mp h
        exact ⟨(Std.LawfulEqCmp.eq_of_compare hx).symm, (Std.LawfulEqCmp.eq_of_compare hy).symm⟩
      | right =>
        obtain ⟨hx, hy⟩ := Ordering.then_eq_eq.mp h
        exact ⟨(Std.LawfulEqCmp.eq_of_compare hx).symm, Std.LawfulEqCmp.eq_of_compare hy⟩
      | bottom =>
        obtain ⟨hy, hx⟩ := Ordering.then_eq_eq.mp h
        exact ⟨Std.LawfulEqCmp.eq_of_compare hx, Std.LawfulEqCmp.eq_of_compare hy⟩
      | left =>
        obtain ⟨hx, hy⟩ := Ordering.then_eq_eq.mp h
        exact ⟨Std.LawfulEqCmp.eq_of_compare hx, (Std.LawfulEqCmp.eq_of_compare hy).symm⟩
    rw [hxy.1, hxy.2]

/-- What does not come before in a comparison of two numbers and then of two more: it is after in
the first, or the first are the same and it is not before in the second. -/
theorem order_of_then_ne_lt {s t : K} {second : Ordering}
    (h : (Scalar.order s t).then second ≠ .lt) :
    Scalar.order t s = .lt ∨ t = s ∧ second ≠ .lt := by
  cases hfirst : Scalar.order s t with
  | lt =>
    rw [hfirst] at h
    exact absurd rfl h
  | eq =>
    rw [hfirst] at h
    exact .inr ⟨(Std.LawfulEqCmp.eq_of_compare hfirst).symm, h⟩
  | gt => exact .inl (Std.OrientedCmp.gt_iff_lt.mp hfirst)

/-! ## 3. The only point that comes first -/

namespace Quad

variable {a b c d : Point K}

/-- **The corner on a side is the only point that no other one comes before.** -/
theorem corner_eq_of_forall {side : Side} {p : Point K} (hp : p ∈ [a, b, c, d])
    (hfirst : ∀ q ∈ [a, b, c, d], side.first K q p ≠ .lt) :
    (canonical a b c d).corner side = p := by
  obtain ⟨hmem, hcorner⟩ := corner_canonical_spec (a := a) (b := b) (c := c) (d := d) side
  cases hcompare : side.first K ((canonical a b c d).corner side) p with
  | lt => exact absurd hcompare (hfirst _ hmem)
  | eq => exact Std.LawfulEqCmp.eq_of_compare hcompare
  | gt => exact absurd (Std.OrientedCmp.gt_iff_lt.mp hcompare) (hcorner p hp)

/-- **Points among which all the corners are have the same canonical order.** -/
theorem canonical_eq_of_subset {a' b' c' d' : Point K} (hsubset : [a', b', c', d'] ⊆ [a, b, c, d])
    (hcorners : (canonical a b c d).toList ⊆ [a', b', c', d']) :
    canonical a' b' c' d' = canonical a b c d := by
  refine eq_of_corner_eq fun side => corner_eq_of_forall ?_ ?_
  · exact hcorners (mem_toList_iff.mpr ⟨side, rfl⟩)
  · intro p hp
    exact (corner_canonical_spec side).2 p (hsubset hp)

/-- The order in which points are given makes no difference. -/
theorem canonical_of_perm {a' b' c' d' : Point K} (h : [a', b', c', d'].Perm [a, b, c, d]) :
    canonical a' b' c' d' = canonical a b c d :=
  canonical_eq_of_subset h.subset fun _ hp => h.symm.subset (toList_canonical_subset hp)

/-- Corners in canonical order stay as they are. -/
theorem canonical_canonical (a b c d : Point K) :
    canonical (canonical a b c d).top (canonical a b c d).right (canonical a b c d).bottom
      (canonical a b c d).left = canonical a b c d :=
  canonical_eq_of_subset toList_canonical_subset (List.Subset.refl _)

end Quad

end

/-- **Corners and the outermost ones among them are the same in canonical order.** -/
theorem ofPositions_outermost {a b c d : Position} (hlossless : ∀ p ∈ [a, b, c, d], p.IsLossless)
    {f : Side → Position} (hf : ∀ side : Side, side.IsOutermost (f side) [a, b, c, d]) :
    (Quad.ofPositions (f .top) (f .right) (f .bottom) (f .left) : Quad Float) =
      Quad.ofPositions a b c d := by
  have hfewer : Side.all.map f ⊆ [a, b, c, d] := by
    intro p hp
    obtain ⟨side, -, rfl⟩ := List.mem_map.mp hp
    exact (hf side).1
  obtain ⟨g, hg, hquad⟩ := ofPositions_eq hlossless
  have hgf : g = f := funext fun side => (hg side).eq (hf side)
  have hcorners : (Quad.ofPositions a b c d : Quad Float).toList =
      (Side.all.map f).map Point.ofPosition := by
    rw [hquad, hgf]
    rfl
  exact Quad.canonical_eq_of_subset (List.map_subset Point.ofPosition hfewer)
    (hcorners ▸ List.Subset.refl _)

namespace Quad

/-- **Four points have one canonical order.**  Doubles are totally ordered, and compare as equal
only if they are the same.  Where that is so, the points may be given in any order; the corners in
canonical order stay as they are; and each corner is one of the points and the outermost one on its
side, which is decided by the first coordinate compared and, if that is the same, by the other one.
So a square is filled with the same strokes in whatever order its corners are given. -/
theorem canonical_of_any_order :
    (Std.TransCmp (Scalar.order : Float → Float → Ordering) ∧
      Std.LawfulEqCmp (Scalar.order : Float → Float → Ordering)) ∧
    ∀ (K : Type) [Scalar K] [Std.TransCmp (Scalar.order : K → K → Ordering)]
      [Std.LawfulEqCmp (Scalar.order : K → K → Ordering)],
      (∀ a b c d : Point K,
        let q : Quad K := canonical a b c d
        (∀ a' b' c' d', [a', b', c', d'].Perm [a, b, c, d] → canonical a' b' c' d' = q) ∧
        canonical q.top q.right q.bottom q.left = q ∧
        (∀ corner ∈ [q.top, q.right, q.bottom, q.left], corner ∈ [a, b, c, d]) ∧
        ∀ p ∈ [a, b, c, d],
          (Scalar.order q.left.x p.x = .lt ∨
            q.left.x = p.x ∧ Scalar.order q.left.y p.y ≠ .lt) ∧
          (Scalar.order q.bottom.y p.y = .lt ∨
            q.bottom.y = p.y ∧ Scalar.order p.x q.bottom.x ≠ .lt) ∧
          (Scalar.order p.x q.right.x = .lt ∨
            p.x = q.right.x ∧ Scalar.order p.y q.right.y ≠ .lt) ∧
          (Scalar.order p.y q.top.y = .lt ∨
            p.y = q.top.y ∧ Scalar.order q.top.x p.x ≠ .lt)) ∧
      ∀ (a b c d a' b' c' d' : Position) (w : K), [a', b', c', d'].Perm [a, b, c, d] →
        (Figure.square a' b' c' d').fillStrokes? w = (Figure.square a b c d).fillStrokes? w := by
  refine ⟨⟨inferInstance, inferInstance⟩, ?_⟩
  intro K _ _ _
  constructor
  · intro a b c d q
    refine ⟨fun _ _ _ _ => canonical_of_perm, canonical_canonical a b c d,
      toList_canonical_subset, ?_⟩
    intro p hp
    have hspec : ∀ side : Side, side.first K p (q.corner side) ≠ .lt :=
      fun side => (corner_canonical_spec side).2 p hp
    exact ⟨order_of_then_ne_lt (hspec .left), order_of_then_ne_lt (hspec .bottom),
      order_of_then_ne_lt (hspec .right), order_of_then_ne_lt (hspec .top)⟩
  · intro a b c d a' b' c' d' w hperm
    have hquad : (ofPositions a' b' c' d' : Quad K) = ofPositions a b c d :=
      canonical_of_perm (hperm.map Point.ofPosition)
    rw [Figure.fillStrokes?, Figure.fillStrokes?, hquad]

/-- Four points near the origin: three of them differ in the signs of their zeros alone, and the
fourth has a coordinate that is not a number.  The fourth one becomes two corners, one of the others
none. -/
theorem canonical_of_any_order_signed_zeros :
    let zero : Float := Binary64.ofInt 0
    let p : Point Float := ⟨zero, -zero⟩
    let q : Point Float := ⟨-zero, zero⟩
    let r : Point Float := ⟨zero, zero⟩
    let s : Point Float := ⟨Binary64.undefined, Binary64.ofInt 1⟩
    [s, r, q, p].Perm [p, q, r, s] ∧
      (canonical s r q p = (⟨s, s, p, q⟩ : Quad Float) ∧
        canonical s s p q = (⟨s, s, p, q⟩ : Quad Float)) ∧
      [(⟨20, 50⟩ : Position), ⟨80, 50⟩, ⟨100, 0⟩, ⟨0, 0⟩].Perm
        [⟨0, 0⟩, ⟨100, 0⟩, ⟨80, 50⟩, ⟨20, 50⟩] ∧
      (Figure.square ⟨20, 50⟩ ⟨80, 50⟩ ⟨100, 0⟩ ⟨0, 0⟩).fillStrokes? (Binary64.ofInt 2) =
        (Figure.square ⟨0, 0⟩ ⟨100, 0⟩ ⟨80, 50⟩ ⟨20, 50⟩).fillStrokes? (Binary64.ofInt 2) := by
  intro zero p q r s
  have hperm : [s, r, q, p].Perm [p, q, r, s] := List.reverse_perm [p, q, r, s]
  have hfour : [(⟨20, 50⟩ : Position), ⟨80, 50⟩, ⟨100, 0⟩, ⟨0, 0⟩].Perm
      [⟨0, 0⟩, ⟨100, 0⟩, ⟨80, 50⟩, ⟨20, 50⟩] := by decide
  have hcanonical : canonical p q r s = (⟨s, s, p, q⟩ : Quad Float) := by decide +kernel
  obtain ⟨hpoints, hfill⟩ := canonical_of_any_order.2 Float
  obtain ⟨hblind, hagain, -⟩ := hpoints p q r s
  refine ⟨hperm, ⟨(hblind s r q p hperm).trans hcanonical, ?_⟩, hfour,
    hfill _ _ _ _ _ _ _ _ _ hfour⟩
  rw [hcanonical] at hagain
  exact hagain

/-- Four points that are not numbers, told apart by sign and payload alone, are ordered as well. -/
example :
    let p : Point BitPattern := ⟨⟨0x7FF8000000000000⟩, ⟨0xFFF8000000000000⟩⟩
    let q : Point BitPattern := ⟨⟨0x7FF8000000000001⟩, ⟨0xFFF8000000000000⟩⟩
    let r : Point BitPattern := ⟨⟨0xFFF8000000000000⟩, ⟨0x7FF8000000000001⟩⟩
    let s : Point BitPattern := ⟨⟨0xFFF8000000000001⟩, ⟨0x7FF8000000000000⟩⟩
    canonical p q r s = ⟨r, q, p, s⟩ ∧ canonical s r q p = ⟨r, q, p, s⟩ := by
  decide +kernel

end Quad

end PenPlotter
