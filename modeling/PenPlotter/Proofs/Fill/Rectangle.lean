import Mathlib.Tactic.Ring
import PenPlotter.Proofs.Fill.Corners
import PenPlotter.Proofs.Fill.Gaps

/-!
# The fill of a rectangle

A rectangle with sides along the axes is filled with rectangles, each a pen width further in on all
sides, for as long as there is room; and in exact arithmetic nothing of the fill is outside.

That is not plain from the definitions.  Three of the corners move along the diagonal, since their
slopes are measured on sides that are level or upright.  The slope at the bottom corner is measured
on the way to the left corner, which has been moved by then, so that the bottom corner falls behind
a little more in each pass and moves outward in the last ones.  How far it falls behind is bounded
by the room that is left (`Rectangle.Trails`): it comes back to its first place at most, and never
past it.
-/

namespace PenPlotter

/-- A rectangle of device positions with sides along the axes. -/
structure Rectangle where
  left : Int
  right : Int
  bottom : Int
  top : Int
  left_lt_right : left < right
  bottom_lt_top : bottom < top
  isCoordinate : ∀ n ∈ [left, right, bottom, top], IsCoordinate n

/-! ## 1. Sides along the axes -/

namespace Quad

variable {q : Quad ℚ} {w : ℚ}

/-- Nothing opposite makes no slope. -/
theorem slope_zero (adjacent : ℚ) : Scalar.slope adjacent 0 = 0 :=
  zero_div adjacent

theorem across_eq_zero {p q : Point ℚ} (h : p.x = q.x) : across p q = 0 := by
  change |q.x - p.x| = 0
  rw [h, sub_self, abs_zero]

theorem along_eq_zero {p q : Point ℚ} (h : p.y = q.y) : along p q = 0 := by
  change |q.y - p.y| = 0
  rw [h, sub_self, abs_zero]

/-- Beside a level side the left corner goes in on the diagonal. -/
theorem moveLeft_of_level (h : q.left.y = q.top.y) :
    q.moveLeft Scalar.slope w = { q with left := ⟨q.left.x + w, q.left.y - w⟩ } := by
  have halong : along ⟨q.left.x + w, q.left.y⟩ q.top = 0 := along_eq_zero h
  have hy : q.left.y - (w - w * 0) = q.left.y - w := by rw [mul_zero, sub_zero]
  simp only [moveLeft, halong, slope_zero]
  exact congrArg (fun y => { q with left := ⟨q.left.x + w, y⟩ }) hy

/-- Beside an upright side the top corner goes in on the diagonal. -/
theorem moveTop_of_upright (h : q.top.x = q.right.x) :
    q.moveTop Scalar.slope w = { q with top := ⟨q.top.x - w, q.top.y - w⟩ } := by
  have hacross : across q.top q.right = 0 := across_eq_zero h
  have hx : q.top.x - (w - w * 0) = q.top.x - w := by rw [mul_zero, sub_zero]
  simp only [moveTop, hacross, slope_zero]
  exact congrArg (fun x => { q with top := ⟨x, q.top.y - w⟩ }) hx

/-- Beside a level side the right corner goes in on the diagonal. -/
theorem moveRight_of_level (h : q.right.y = q.bottom.y) :
    q.moveRight Scalar.slope w = { q with right := ⟨q.right.x - w, q.right.y + w⟩ } := by
  have halong : along ⟨q.right.x - w, q.right.y⟩ q.bottom = 0 := along_eq_zero h
  have hy : q.right.y + (w - w * 0) = q.right.y + w := by rw [mul_zero, sub_zero]
  simp only [moveRight, halong, slope_zero]
  exact congrArg (fun y => { q with right := ⟨q.right.x - w, y⟩ }) hy

end Quad

/-! ## 2. Canonical order -/

/-- Whole numbers are compared as rational ones. -/
theorem keepsOrder_rational (corners : List Position) : KeepsOrder ℚ corners := by
  have horder : ∀ n k : Int, compare (n : ℚ) k = compare n k := by
    intro n k
    rw [← cmp_eq_compare, ← cmp_eq_compare]
    exact Int.cast_strictMono.cmp_map_eq n k
  intro p _ q _
  exact ⟨horder p.x q.x, horder p.y q.y⟩

namespace Rectangle

open Quad

variable {r : Rectangle} {w depth x : ℚ}

/-- The corners of a rectangle. -/
def corners (r : Rectangle) : List Position :=
  [⟨r.left, r.bottom⟩, ⟨r.left, r.top⟩, ⟨r.right, r.bottom⟩, ⟨r.right, r.top⟩]

/-- The corner that is the outermost one on a side. -/
def corner (r : Rectangle) : Side → Position
  | .top => ⟨r.right, r.top⟩
  | .right => ⟨r.right, r.bottom⟩
  | .bottom => ⟨r.left, r.bottom⟩
  | .left => ⟨r.left, r.top⟩

theorem isOutermost_corner (r : Rectangle) (side : Side) :
    side.IsOutermost (r.corner side) r.corners := by
  have hwide := r.left_lt_right
  have hhigh := r.bottom_lt_top
  constructor
  · cases side <;> simp [corner, corners]
  · intro p hp
    simp only [corners, List.mem_cons, List.not_mem_nil, or_false] at hp
    rcases hp with rfl | rfl | rfl | rfl
    all_goals cases side <;> simp only [Side.Before, corner] <;> omega

/-- The width of a rectangle. -/
def width (r : Rectangle) : ℚ :=
  r.right - r.left

/-- The height of a rectangle. -/
def height (r : Rectangle) : ℚ :=
  r.top - r.bottom

theorem width_pos (r : Rectangle) : 0 < r.width :=
  sub_pos.mpr (Int.cast_lt.mpr r.left_lt_right)

theorem height_pos (r : Rectangle) : 0 < r.height :=
  sub_pos.mpr (Int.cast_lt.mpr r.bottom_lt_top)

/-- A rectangle some way in, in canonical order, but for the bottom corner, which is somewhere on
its side. -/
def inset (r : Rectangle) (depth x : ℚ) : Quad ℚ where
  top := ⟨r.right - depth, r.top - depth⟩
  right := ⟨r.right - depth, r.bottom + depth⟩
  bottom := ⟨x, r.bottom + depth⟩
  left := ⟨r.left + depth, r.top - depth⟩

/-- **The corners of a rectangle come into the same order, whatever order they are given in.** -/
theorem ofPositions_eq_inset {a b c d : Position} (hcorners : [a, b, c, d].Perm r.corners) :
    (Quad.ofPositions a b c d : Quad ℚ) = r.inset 0 r.left := by
  obtain ⟨f, hf, hquad⟩ := exists_ofPositions_eq (keepsOrder_rational [a, b, c, d])
  have hcorner : ∀ side : Side, f side = r.corner side := by
    intro side
    have hout : side.IsOutermost (r.corner side) [a, b, c, d] :=
      (r.isOutermost_corner side).of_subset
        (hcorners.mem_iff.mpr (r.isOutermost_corner side).1) hcorners.subset
    exact (hf side).eq hout
  rw [hquad, hcorner, hcorner, hcorner, hcorner]
  simp only [inset, sub_zero, add_zero]
  rfl

/-! ## 3. Room -/

/-- A bottom corner that has fallen behind takes no room away. -/
theorem hasRoom_inset_iff (hx : x ≤ r.left + depth) :
    (r.inset depth x).hasRoom w = true ↔ 2 * w < min r.width r.height - 2 * depth := by
  have hmin : 2 * w < min r.width r.height - 2 * depth ↔
      2 * w + 2 * depth < r.width ∧ 2 * w + 2 * depth < r.height := by
    rw [lt_sub_iff_add_lt, lt_min_iff]
  rw [hasRoom_eq_true_iff, forall_mem_gaps_iff, hmin]
  simp only [inset, width, height]
  constructor
  · rintro ⟨hwide, -, hhigh, -⟩
    constructor <;> linarith
  · rintro ⟨hwide, hhigh⟩
    refine ⟨?_, ?_, ?_, ?_⟩ <;> linarith

/-- The number of passes that there is room for: of pairs of pen widths in the shorter side, rounded
up, all but one. -/
def passCount (r : Rectangle) (w : ℚ) : Nat :=
  (⌈min r.width r.height / (2 * w)⌉ - 1).toNat

theorem lt_passCount_iff (hw : 0 < w) {k : Nat} :
    k < r.passCount w ↔ 2 * w < min r.width r.height - 2 * (k * w) := by
  have hpos : 0 < 2 * w := by linarith
  have hceil : k < r.passCount w ↔ ((k + 1 : Int) : ℚ) < min r.width r.height / (2 * w) := by
    rw [← Int.lt_ceil, passCount]
    omega
  rw [hceil, lt_div_iff₀ hpos]
  push_cast
  constructor
  · intro h
    linarith
  · intro h
    linarith

/-! ## 4. One pass -/

/-- Where the bottom corner of a rectangle some way in is after one more pass.  The slope is that of
the way to the left corner, which has been moved before. -/
def nextBottom (r : Rectangle) (w depth x : ℚ) : ℚ :=
  x + (w - w * ((r.left + depth + w - x) / (r.height - 2 * depth - w)))

/-- The bottom corner is moved last, when the others are where they will be. -/
theorem moveBottom_inset (hw : 0 < w) (hx : x ≤ r.left + depth)
    (hroom : w ≤ r.height - 2 * depth) :
    Quad.moveBottom Scalar.slope w
        { r.inset (depth + w) x with bottom := ⟨x, r.bottom + depth⟩ } =
      r.inset (depth + w) (r.nextBottom w depth x) := by
  have hdown : r.top - (depth + w) - (r.bottom + depth) = r.height - 2 * depth - w := by
    rw [height]
    ring
  have halong : along ⟨x, r.bottom + depth⟩ (r.inset (depth + w) x).left =
      r.height - 2 * depth - w := by
    change |(r.top : ℚ) - (depth + w) - (r.bottom + depth)| = _
    rw [hdown, abs_of_nonneg (by linarith)]
  have hacross : across ⟨x, r.bottom + depth⟩ (r.inset (depth + w) x).left =
      r.left + depth + w - x := by
    change |(r.left : ℚ) + (depth + w) - x| = _
    rw [← add_assoc, abs_of_nonneg (by linarith)]
  have hy : (r.bottom : ℚ) + depth + w = r.bottom + (depth + w) := add_assoc ..
  simp only [moveBottom, halong, hacross]
  exact congrArg (fun y => { r.inset (depth + w) x with bottom := ⟨r.nextBottom w depth x, y⟩ }) hy

/-- **A pass goes in by a pen width on all sides, but for the bottom corner.** -/
theorem stepInward_inset (hw : 0 < w) (hx : x ≤ r.left + depth)
    (hroom : w ≤ r.height - 2 * depth) :
    (r.inset depth x).stepInward Scalar.slope w =
      r.inset (depth + w) (r.nextBottom w depth x) := by
  rw [stepInward, moveLeft_of_level (q := r.inset depth x) rfl, moveTop_of_upright rfl,
    moveRight_of_level rfl, ← moveBottom_inset hw hx hroom]
  simp only [inset, sub_sub, add_assoc]

/-! ## 5. How far the bottom corner falls behind -/

/-- Where the bottom corner may be when the others are some way in: not ahead of them, and the less
behind the more room is left. -/
structure Trails (r : Rectangle) (w depth x : ℚ) : Prop where
  behind : x ≤ r.left + depth
  near : (r.left + depth - x + w) * (r.height - 2 * depth + 2 * w) ≤ w * (r.height + 2 * w)

theorem trails_zero (r : Rectangle) (w : ℚ) : r.Trails w 0 r.left where
  behind := by simp
  near := by simp

/-- A pass that finds room lets the bottom corner fall behind, but not too far. -/
theorem Trails.next (h : r.Trails w depth x) (hw : 0 < w) (hroom : 2 * w < r.height - 2 * depth) :
    r.Trails w (depth + w) (r.nextBottom w depth x) := by
  obtain ⟨hbehind, hnear⟩ := h
  have hpos : 0 < r.height - 2 * depth - w := by linarith
  generalize ht : (r.left + depth + w - x) / (r.height - 2 * depth - w) = t
  have hnext : r.nextBottom w depth x = x + (w - w * t) := by rw [nextBottom, ht]
  have hnonneg : 0 ≤ t := ht ▸ div_nonneg (by linarith) hpos.le
  have hlag : r.left + depth - x + w = t * (r.height - 2 * depth - w) := by
    rw [← ht, div_mul_cancel₀ _ hpos.ne']
    ring
  refine ⟨?_, ?_⟩
  · have htake : 0 ≤ w * t := mul_nonneg hw.le hnonneg
    rw [hnext]
    linarith
  · have hgain : 0 ≤ t * w * (r.height - 2 * depth - 2 * w) :=
      mul_nonneg (mul_nonneg hnonneg hw.le) (by linarith)
    calc (r.left + (depth + w) - r.nextBottom w depth x + w) *
          (r.height - 2 * (depth + w) + 2 * w)
        = (r.left + depth - x + w + w * t) * (r.height - 2 * depth) := by
          rw [hnext]
          ring
      _ = t * (r.height - 2 * depth) * (r.height - 2 * depth) := by
          rw [hlag]
          ring
      _ ≤ t * (r.height - 2 * depth - w) * (r.height - 2 * depth + 2 * w) := by linarith
      _ = (r.left + depth - x + w) * (r.height - 2 * depth + 2 * w) := by rw [hlag]
      _ ≤ w * (r.height + 2 * w) := hnear

/-- **The bottom corner does not fall behind its first place.** -/
theorem Trails.left_le (h : r.Trails w depth x) (hw : 0 < w) (hdepth : 0 ≤ depth)
    (hroom : 0 ≤ r.height - 2 * depth) : r.left ≤ x := by
  by_contra hpast
  have hfar : depth + w < r.left + depth - x + w := by linarith
  have hless : (depth + w) * (r.height - 2 * depth + 2 * w) <
      (r.left + depth - x + w) * (r.height - 2 * depth + 2 * w) :=
    mul_lt_mul_of_pos_right hfar (by linarith)
  have hrest : 0 ≤ depth * (r.height - 2 * depth) := mul_nonneg hdepth hroom
  linarith [h.near]

/-! ## 6. All passes -/

/-- Where the bottom corner is after a number of passes. -/
def bottomAfter (r : Rectangle) (w : ℚ) : Nat → ℚ
  | 0 => r.left
  | k + 1 => r.nextBottom w (k * w) (r.bottomAfter w k)

theorem room_of_lt_passCount (hw : 0 < w) {k : Nat} (hk : k < r.passCount w) :
    2 * w < r.width - 2 * (k * w) ∧ 2 * w < r.height - 2 * (k * w) := by
  have hroom := (lt_passCount_iff hw).mp hk
  exact ⟨by linarith [min_le_left r.width r.height], by linarith [min_le_right r.width r.height]⟩

/-- After any number of passes for which there is room, the bottom corner is not too far behind. -/
theorem trails_bottomAfter (hw : 0 < w) {k : Nat} (hk : k ≤ r.passCount w) :
    r.Trails w (k * w) (r.bottomAfter w k) := by
  induction k with
  | zero =>
    rw [Nat.cast_zero, zero_mul]
    exact r.trails_zero w
  | succ k ih =>
    have hnext := (ih (Nat.le_of_succ_le hk)).next hw (room_of_lt_passCount hw hk).2
    rw [Nat.cast_succ, add_one_mul]
    exact hnext

/-- **After each pass the rectangle is one pen width further in.** -/
theorem inward_inset (hw : 0 < w) {k : Nat} (hk : k ≤ r.passCount w) :
    (r.inset 0 r.left).inward Scalar.slope w k = r.inset (k * w) (r.bottomAfter w k) := by
  induction k with
  | zero =>
    rw [Nat.cast_zero, zero_mul]
    exact inward_zero ..
  | succ k ih =>
    have hroom := (room_of_lt_passCount hw hk).2
    have htrails := trails_bottomAfter hw (Nat.le_of_succ_le hk)
    rw [inward_succ, ih (Nat.le_of_succ_le hk),
      stepInward_inset hw htrails.behind (by linarith), Nat.cast_succ, add_one_mul]
    rfl

/-- Once the passes are made that there was room for, there is no more. -/
theorem hasRoom_inward_iff (hw : 0 < w) {k : Nat} (hk : k ≤ r.passCount w) :
    ((r.inset 0 r.left).inward Scalar.slope w k).hasRoom w = true ↔ k < r.passCount w := by
  rw [inward_inset hw hk, hasRoom_inset_iff (trails_bottomAfter hw hk).behind, lt_passCount_iff hw]

/-- **A rectangle has as many turns as there is room for**, or as the limit allows. -/
theorem passes_inset (hw : 0 < w) (limit : Nat) :
    passes Scalar.slope w limit (r.inset 0 r.left) =
      (List.range (min limit (r.passCount w))).map fun k =>
        (r.inset 0 r.left).inward Scalar.slope w (k + 1) := by
  have hroom : ∀ k < r.passCount w,
      ((r.inset 0 r.left).inward Scalar.slope w k).hasRoom w = true := by
    intro k hk
    exact (hasRoom_inward_iff hw hk.le).mpr hk
  have hend : ((r.inset 0 r.left).inward Scalar.slope w (r.passCount w)).hasRoom w = false := by
    rw [Bool.eq_false_iff, ne_eq, hasRoom_inward_iff hw le_rfl]
    exact lt_irrefl _
  exact passes_eq hroom hend limit

/-- **The limit is never reached**: the widest gap holds more than enough pen widths. -/
theorem passCount_lt_passLimit (hw : 0 < w) :
    r.passCount w < (r.inset 0 r.left).passLimit w := by
  have hgap : r.width ∈ (r.inset 0 r.left).gaps := by
    have htop : r.width = (r.inset 0 r.left).top.x - (r.inset 0 r.left).left.x := by
      simp [inset, width]
    rw [htop]
    exact List.mem_cons_self
  have hmin : min r.width r.height ≤ (r.inset 0 r.left).widest :=
    (min_le_left _ _).trans (le_widest hgap)
  have hpos : 0 < min r.width r.height := lt_min r.width_pos r.height_pos
  have hle : min r.width r.height / (2 * w) ≤ (r.inset 0 r.left).widest / w :=
    div_le_div₀ (hpos.le.trans hmin) hmin hw (by linarith)
  have hceil := Int.ceil_mono hle
  have hceilpos : 0 < ⌈(r.inset 0 r.left).widest / w⌉ :=
    Int.ceil_pos.mpr (div_pos (hpos.trans_le hmin) hw)
  change (⌈min r.width r.height / (2 * w)⌉ - 1).toNat < ⌈(r.inset 0 r.left).widest / w⌉.toNat
  omega

/-! ## 7. Strokes -/

/-- Whether a position is in a rectangle. -/
def Holds (r : Rectangle) (p : Position) : Prop :=
  (r.left ≤ p.x ∧ p.x ≤ r.right) ∧ r.bottom ≤ p.y ∧ p.y ≤ r.top

/-- A point in a rectangle is rounded to a position in it. -/
theorem holds_position {p : Point ℚ} (hx : r.left ≤ p.x ∧ p.x ≤ r.right)
    (hy : r.bottom ≤ p.y ∧ p.y ≤ r.top) : r.Holds p.position := by
  have hleft : IsCoordinate r.left := r.isCoordinate _ (by simp)
  have hright : IsCoordinate r.right := r.isCoordinate _ (by simp)
  have hbottom : IsCoordinate r.bottom := r.isCoordinate _ (by simp)
  have htop : IsCoordinate r.top := r.isCoordinate _ (by simp)
  exact ⟨toCoordinate_mem hleft hright hx.1 hx.2, toCoordinate_mem hbottom htop hy.1 hy.2⟩

/-- The first left corner is where the fill begins. -/
theorem position_left_inset (r : Rectangle) :
    (r.inset 0 r.left).left.position = ⟨r.left, r.top⟩ := by
  have hleft : IsCoordinate r.left := r.isCoordinate _ (by simp)
  have htop : IsCoordinate r.top := r.isCoordinate _ (by simp)
  simp only [Point.position, Point.map, inset, add_zero, sub_zero, toCoordinate_intCast hleft,
    toCoordinate_intCast htop]

/-- **A turn does not leave the rectangle.** -/
theorem holds_of_mem_loop (hdepth : 0 ≤ depth) (hwide : 2 * depth ≤ r.width)
    (hhigh : 2 * depth ≤ r.height) (hx : r.left ≤ x ∧ x ≤ r.left + depth) {command : Command}
    (hcommand : command ∈ loop (r.inset depth x)) : ∃ p, command = .draw p ∧ r.Holds p := by
  obtain ⟨corner, hcorner, rfl⟩ := List.mem_map.mp hcommand
  refine ⟨corner.position, rfl, ?_⟩
  rw [width] at hwide
  rw [height] at hhigh
  simp only [inset, List.mem_cons, List.not_mem_nil, or_false] at hcorner
  rcases hcorner with rfl | rfl | rfl | rfl | rfl
  all_goals
    refine holds_position ⟨?_, ?_⟩ ⟨?_, ?_⟩ <;> simp only <;> linarith

/-- The passes that there is room for do not reach beyond the middle. -/
theorem twice_depth_le (hw : 0 < w) {k : Nat} (hk : k ≤ r.passCount w) :
    0 ≤ r.width - 2 * (k * w) ∧ 0 ≤ r.height - 2 * (k * w) := by
  cases k with
  | zero =>
    rw [Nat.cast_zero, zero_mul, mul_zero, sub_zero, sub_zero]
    exact ⟨r.width_pos.le, r.height_pos.le⟩
  | succ k =>
    obtain ⟨hwide, hhigh⟩ := room_of_lt_passCount hw hk
    rw [Nat.cast_succ, add_one_mul]
    constructor <;> linarith

/-- A turn for which there is room does not leave the rectangle. -/
theorem holds_of_mem_turn (hw : 0 < w) {k : Nat} (hk : k < r.passCount w) {command : Command}
    (hcommand : command ∈ loop (r.inset ((k + 1 : Nat) * w) (r.bottomAfter w (k + 1)))) :
    ∃ p, command = .draw p ∧ r.Holds p := by
  obtain ⟨hwide, hhigh⟩ := twice_depth_le hw hk
  have htrails := trails_bottomAfter hw hk
  have hdepth : (0 : ℚ) ≤ (k + 1 : Nat) * w := mul_nonneg (Nat.cast_nonneg _) hw.le
  have hleft : r.left ≤ r.bottomAfter w (k + 1) := htrails.left_le hw hdepth hhigh
  exact holds_of_mem_loop hdepth (by linarith) (by linarith) ⟨hleft, htrails.behind⟩ hcommand

/-- **The fill of a rectangle.**  The pen begins at the left corner, and goes around as many times
as there is room for two pen widths more in the shorter side, which is fewer times than the limit
allows.  After each pass the left, the top and the right corner are one pen width further in, and
the bottom corner is level with the right one and between the left corner and where that was at
first.  Every position that is moved or drawn to is in the rectangle. -/
theorem fillStrokes_rectangle (r : Rectangle) {w : ℚ} (hw : 0 < w) {a b c d : Position}
    (hcorners : [a, b, c, d].Perm r.corners) :
    let q : Quad ℚ := .ofPositions a b c d
    let n := (⌈min ((r.right : ℚ) - r.left) (r.top - r.bottom) / (2 * w)⌉ - 1).toNat
    ∃ bottom : Nat → ℚ,
      (∀ k ≤ n, r.left ≤ bottom k ∧ bottom k ≤ r.left + k * w) ∧
      (∀ k ≤ n, q.inward Scalar.slope w k =
        { left := ⟨r.left + k * w, r.top - k * w⟩
          top := ⟨r.right - k * w, r.top - k * w⟩
          right := ⟨r.right - k * w, r.bottom + k * w⟩
          bottom := ⟨bottom k, r.bottom + k * w⟩ }) ∧
      (∀ limit, passes Scalar.slope w limit q =
        (List.range (min limit n)).map fun k => q.inward Scalar.slope w (k + 1)) ∧
      n < q.passLimit w ∧
      q.fillStrokes w = .move ⟨r.left, r.top⟩ ::
        (List.range n).flatMap (fun k => loop (q.inward Scalar.slope w (k + 1))) ∧
      ∀ command ∈ q.fillStrokes w, ∃ p : Position,
        (command = .move p ∨ command = .draw p) ∧
          (r.left ≤ p.x ∧ p.x ≤ r.right) ∧ r.bottom ≤ p.y ∧ p.y ≤ r.top := by
  intro q n
  have hq : q = r.inset 0 r.left := ofPositions_eq_inset hcorners
  have hinward : ∀ k ≤ n, q.inward Scalar.slope w k = r.inset (k * w) (r.bottomAfter w k) := by
    intro k hk
    rw [hq, inward_inset hw hk]
  have hpasses : ∀ limit, passes Scalar.slope w limit q =
      (List.range (min limit n)).map fun k => q.inward Scalar.slope w (k + 1) := by
    intro limit
    rw [hq]
    exact passes_inset hw limit
  have hlimit : n < q.passLimit w := hq ▸ passCount_lt_passLimit hw
  have hstart : q.left.position = ⟨r.left, r.top⟩ := hq ▸ r.position_left_inset
  have hstrokes : q.fillStrokes w = .move ⟨r.left, r.top⟩ ::
      (List.range n).flatMap (fun k => loop (q.inward Scalar.slope w (k + 1))) := by
    rw [fillStrokes, hstart, hpasses, Nat.min_eq_right hlimit.le, List.flatMap_map]
  refine ⟨r.bottomAfter w, ?_, hinward, hpasses, hlimit, hstrokes, ?_⟩
  · intro k hk
    have htrails := trails_bottomAfter hw hk
    exact ⟨htrails.left_le hw (mul_nonneg (Nat.cast_nonneg k) hw.le)
      (twice_depth_le hw hk).2, htrails.behind⟩
  · intro command hcommand
    rw [hstrokes] at hcommand
    rcases List.mem_cons.mp hcommand with rfl | hturn
    · exact ⟨⟨r.left, r.top⟩, .inl rfl, ⟨le_rfl, r.left_lt_right.le⟩, r.bottom_lt_top.le, le_rfl⟩
    · obtain ⟨k, hk, hloop⟩ := List.mem_flatMap.mp hturn
      have hlt : k < n := List.mem_range.mp hk
      rw [hinward (k + 1) hlt] at hloop
      obtain ⟨p, hp, hholds⟩ := holds_of_mem_turn hw hlt hloop
      exact ⟨p, .inr hp, hholds⟩

/-- A sheet of ten by seven, its corners in no order, has three turns of a pen of width one. -/
theorem fillStrokes_rectangle_three :
    let sheet : Rectangle :=
      { left := 0, right := 10, bottom := 0, top := 7, left_lt_right := by decide,
        bottom_lt_top := by decide, isCoordinate := by decide }
    (0 : ℚ) < 1 ∧
      [⟨10, 0⟩, ⟨0, 7⟩, ⟨0, 0⟩, ⟨10, 7⟩].Perm sheet.corners ∧
      (⌈min ((10 : ℚ) - 0) (7 - 0) / (2 * 1)⌉ - 1).toNat = 3 ∧
      ∀ command ∈ (Quad.ofPositions ⟨10, 0⟩ ⟨0, 7⟩ ⟨0, 0⟩ ⟨10, 7⟩ : Quad ℚ).fillStrokes 1,
        ∃ p : Position, (command = .move p ∨ command = .draw p) ∧
          (0 ≤ p.x ∧ p.x ≤ 10) ∧ 0 ≤ p.y ∧ p.y ≤ 7 := by
  intro sheet
  have hperm : [⟨10, 0⟩, ⟨0, 7⟩, ⟨0, 0⟩, ⟨10, 7⟩].Perm sheet.corners := by decide
  obtain ⟨bottom, -, -, -, -, -, hinside⟩ := fillStrokes_rectangle sheet one_pos hperm
  exact ⟨one_pos, hperm, by decide +kernel, hinside⟩

end Rectangle

end PenPlotter
