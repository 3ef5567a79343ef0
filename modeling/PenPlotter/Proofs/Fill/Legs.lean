import Mathlib.Analysis.SpecialFunctions.Trigonometric.Inverse
import PenPlotter.Proofs.Fill.Corners
import PenPlotter.Proofs.Fill.Gaps

/-!
# No slope is measured on an upright triangle

A pass measures four slopes, each on a right triangle given by its legs: the adjacent one, which
lies beside the angle, and the opposite one.  They are taken when a corner is to be moved, so that
some of the corners have been moved by then (`Quad.legs`).  The tangent is computed through the
cosine, which goes wrong for a triangle without extent and for one that has no adjacent leg.

In exact arithmetic a pass comes upon neither.  It is made only if the gaps are wider than two pen
widths, and then every adjacent leg is longer than one (`Quad.lt_adjacent`).  The gap beside the
bottom corner is the one that takes an argument: the left corner has come down by then, and it is
because its slope is not negative that it has come down one pen width at most.

So it does not matter what a slope is taken to be where there is none (`Quad.passes_congr`).
-/

namespace PenPlotter

/-- The legs of a right triangle. -/
structure Legs (K : Type) where
  adjacent : K
  opposite : K
deriving DecidableEq, Repr

namespace Legs

/-- The slope that is measured on a triangle. -/
def measure {K : Type} (slope : K → K → K) (l : Legs K) : K :=
  slope l.adjacent l.opposite

/-! ## 1. The exact tangent -/

section

variable (l : Legs ℚ)

/-- The length of the longest side. -/
noncomputable def longest : ℝ :=
  √((l.adjacent : ℝ) ^ 2 + (l.opposite : ℝ) ^ 2)

/-- The cosine of the angle. -/
noncomputable def cosine : ℝ :=
  l.adjacent / l.longest

/-- The tangent of the angle, by way of the cosine.  A triangle without extent has tangent zero. -/
noncomputable def tangent : ℝ :=
  if l.longest = 0 then 0 else Real.tan (Real.arccos (min l.cosine 1))

/-- Whether a triangle has a tangent, and more than a given width beside the angle: there is a
longest side to divide by and a cosine to divide by, and the tangent is the quotient of the legs.
-/
structure HasTangent (w : ℚ) : Prop where
  lt_adjacent : w < l.adjacent
  longest_pos : 0 < l.longest
  cosine_pos : 0 < l.cosine
  tangent_eq : l.tangent = l.opposite / l.adjacent

end

variable {l : Legs ℚ} (hadjacent : 0 < l.adjacent)

include hadjacent

theorem longest_pos : 0 < l.longest := by
  have hadjacent' : (0 : ℝ) < l.adjacent := by exact_mod_cast hadjacent
  exact Real.sqrt_pos.mpr (by positivity)

theorem cosine_pos : 0 < l.cosine :=
  div_pos (by exact_mod_cast hadjacent) (longest_pos hadjacent)

theorem cosine_le_one : l.cosine ≤ 1 := by
  rw [cosine, div_le_one (longest_pos hadjacent)]
  exact Real.le_sqrt_of_sq_le (le_add_of_nonneg_right (sq_nonneg _))

/-- The sine is the opposite leg divided by the longest side. -/
theorem sqrt_one_sub_cosine_sq (hopposite : 0 ≤ l.opposite) :
    √(1 - l.cosine ^ 2) = l.opposite / l.longest := by
  have hlongest := longest_pos hadjacent
  have hopposite' : (0 : ℝ) ≤ l.opposite := by exact_mod_cast hopposite
  have hsquare : l.longest ^ 2 = (l.adjacent : ℝ) ^ 2 + (l.opposite : ℝ) ^ 2 :=
    Real.sq_sqrt (by positivity)
  have hsine : 1 - l.cosine ^ 2 = (l.opposite / l.longest) ^ 2 := by
    rw [cosine, div_pow, div_pow, eq_div_iff (by positivity), sub_mul, one_mul,
      div_mul_cancel₀ _ (by positivity), hsquare]
    ring
  rw [hsine, Real.sqrt_sq (div_nonneg hopposite' hlongest.le)]

/-- **A triangle with an adjacent leg has a tangent, the quotient of the legs.** -/
theorem tangent_eq (hopposite : 0 ≤ l.opposite) : l.tangent = l.opposite / l.adjacent := by
  have hlongest := longest_pos hadjacent
  rw [tangent, if_neg hlongest.ne', min_eq_left (cosine_le_one hadjacent), Real.tan_arccos,
    sqrt_one_sub_cosine_sq hadjacent hopposite, cosine, div_div_div_cancel_right₀ hlongest.ne']

end Legs

namespace Quad

/-! ## 2. The triangles of a pass -/

section

variable {K : Type} [Scalar K] (slope : K → K → K) (w : K) (q : Quad K)

/-- The triangle on which the slope at a corner is measured in a pass.  The left and the right
corner have taken their step across by then, and the corners before them in the pass have been
moved. -/
def legs : Side → Legs K
  | .left =>
    let left : Point K := ⟨q.left.x + w, q.left.y⟩
    ⟨across left q.top, along left q.top⟩
  | .top =>
    let q₁ := q.moveLeft slope w
    ⟨along q₁.top q₁.right, across q₁.top q₁.right⟩
  | .right =>
    let q₂ := (q.moveLeft slope w).moveTop slope w
    let right : Point K := ⟨q₂.right.x - w, q₂.right.y⟩
    ⟨across right q₂.bottom, along right q₂.bottom⟩
  | .bottom =>
    let q₃ := ((q.moveLeft slope w).moveTop slope w).moveRight slope w
    ⟨along q₃.bottom q₃.left, across q₃.bottom q₃.left⟩

/-- The slope at a corner as it is measured in a pass. -/
def measured (side : Side) : K :=
  (q.legs slope w side).measure slope

/-- The slopes that decide how far the corners go are those measured on these triangles. -/
theorem stepInward_eq_measured :
    q.stepInward slope w = q.shifted w
      { left := q.measured slope w .left
        top := q.measured slope w .top
        right := q.measured slope w .right
        bottom := q.measured slope w .bottom } := rfl

end

/-! ## 3. Adjacent legs -/

variable {w : ℚ} {slope other : ℚ → ℚ → ℚ} {q : Quad ℚ}

theorem opposite_nonneg (side : Side) : 0 ≤ (q.legs slope w side).opposite := by
  cases side <;> exact abs_nonneg _

/-- **Where there is room for a pass, every slope is measured beside more than a pen width.** -/
theorem lt_adjacent (hw : 0 < w)
    (hslope : ∀ l : Legs ℚ, w < l.adjacent → 0 ≤ l.opposite → 0 ≤ l.measure slope)
    (hroom : q.hasRoom w = true) (side : Side) : w < (q.legs slope w side).adjacent := by
  obtain ⟨htop, hright, hleft, hbottom⟩ :=
    forall_mem_gaps_iff.mp (hasRoom_eq_true_iff.mp hroom)
  have hatLeft : w < (q.legs slope w .left).adjacent := by
    change w < |q.top.x - (q.left.x + w)|
    exact lt_abs.mpr (.inl (by linarith))
  cases side with
  | left => exact hatLeft
  | top =>
    change w < |q.right.y - q.top.y|
    exact lt_abs.mpr (.inr (by linarith))
  | right =>
    change w < |q.bottom.x - (q.right.x - w)|
    exact lt_abs.mpr (.inr (by linarith))
  | bottom =>
    -- The left corner has come down by then, but by one pen width at most.
    have hdown : 0 ≤ w * q.measured slope w .left :=
      mul_nonneg hw.le (hslope _ hatLeft (opposite_nonneg .left))
    change w < |q.left.y - (w - w * q.measured slope w .left) - q.bottom.y|
    exact lt_abs.mpr (.inl (by linarith))

/-! ## 4. Slopes where there is none -/

section

variable (hw : 0 < w)
  (hslope : ∀ l : Legs ℚ, w < l.adjacent → 0 ≤ l.opposite → 0 ≤ l.measure slope)
  (hagree : ∀ l : Legs ℚ, w < l.adjacent → 0 ≤ l.opposite → l.measure slope = l.measure other)

include hw hslope hagree

/-- A pass is the same with any slope that agrees on the triangles it comes upon. -/
theorem stepInward_congr (hroom : q.hasRoom w = true) :
    q.stepInward slope w = q.stepInward other w := by
  have hmeasured : ∀ side : Side,
      q.measured slope w side = (q.legs slope w side).measure other := fun side =>
    hagree _ (lt_adjacent hw hslope hroom side) (opposite_nonneg side)
  -- Each move is the same, from where the moves before it have led.
  have hleft : q.moveLeft slope w = q.moveLeft other w :=
    congrArg (fun t => { q with left := ⟨q.left.x + w, q.left.y - (w - w * t)⟩ }) (hmeasured .left)
  let q₁ := q.moveLeft slope w
  have htop : q₁.moveTop slope w = q₁.moveTop other w :=
    congrArg (fun t => { q₁ with top := ⟨q₁.top.x - (w - w * t), q₁.top.y - w⟩ }) (hmeasured .top)
  let q₂ := q₁.moveTop slope w
  have hright : q₂.moveRight slope w = q₂.moveRight other w :=
    congrArg (fun t => { q₂ with right := ⟨q₂.right.x - w, q₂.right.y + (w - w * t)⟩ })
      (hmeasured .right)
  let q₃ := q₂.moveRight slope w
  have hbottom : q₃.moveBottom slope w = q₃.moveBottom other w :=
    congrArg (fun t => { q₃ with bottom := ⟨q₃.bottom.x + (w - w * t), q₃.bottom.y + w⟩ })
      (hmeasured .bottom)
  calc q.stepInward slope w
      = q₃.moveBottom other w := hbottom
    _ = (q₂.moveRight other w).moveBottom other w := by rw [← hright]
    _ = ((q₁.moveTop other w).moveRight other w).moveBottom other w := by rw [← htop]
    _ = q.stepInward other w := by rw [stepInward, ← hleft]

/-- **So are the passes of a fill.** -/
theorem passes_congr (limit : Nat) (q : Quad ℚ) :
    passes slope w limit q = passes other w limit q := by
  induction limit generalizing q with
  | zero => rfl
  | succ limit ih =>
    by_cases hroom : q.hasRoom w = true
    · rw [passes_of_room slope w hroom, passes_of_room other w hroom,
        ← stepInward_congr hw hslope hagree hroom, ih]
    · rw [passes_of_no_room slope w hroom, passes_of_no_room other w hroom]

end

/-- **No pass of a fill measures a slope on an upright triangle.**  Where there is room for a pass,
each of the four triangles has a tangent, and more than a pen width beside the angle.  So it is
before every pass of a fill, and what a slope is taken to be for a triangle that has none makes no
difference. -/
theorem tangents_of_passes {w : ℚ} (hw : 0 < w) {slope : ℚ → ℚ → ℚ}
    (hslope : ∀ l : Legs ℚ, 0 < l.adjacent → 0 ≤ l.opposite → ((l.measure slope : ℚ) : ℝ) = l.tangent) :
    (∀ q : Quad ℚ, q.hasRoom w = true →
      (∀ side, (q.legs slope w side).HasTangent w) ∧
        q.stepInward slope w = q.shifted w
          { left := q.measured slope w .left
            top := q.measured slope w .top
            right := q.measured slope w .right
            bottom := q.measured slope w .bottom }) ∧
      ∀ (q : Quad ℚ) (limit : Nat),
        (q :: passes slope w limit q).IsChain (fun before after =>
          after = before.stepInward slope w ∧ ∀ side, (before.legs slope w side).HasTangent w) ∧
        passes slope w limit q = passes Scalar.slope w limit q := by
  have hquotient : ∀ l : Legs ℚ, w < l.adjacent → 0 ≤ l.opposite →
      l.measure slope = l.measure Scalar.slope := by
    intro l hadjacent hopposite
    have htangent := hslope l (hw.trans hadjacent) hopposite
    rw [Legs.tangent_eq (hw.trans hadjacent) hopposite] at htangent
    exact_mod_cast htangent
  have hnonneg : ∀ l : Legs ℚ, w < l.adjacent → 0 ≤ l.opposite → 0 ≤ l.measure slope := by
    intro l hadjacent hopposite
    rw [hquotient l hadjacent hopposite]
    exact slope_nonneg (hw.trans hadjacent).le hopposite
  have htangents : ∀ q : Quad ℚ, q.hasRoom w = true →
      ∀ side, (q.legs slope w side).HasTangent w := by
    intro q hroom side
    have hlt := lt_adjacent hw hnonneg hroom side
    have hadjacent := hw.trans hlt
    exact ⟨hlt, Legs.longest_pos hadjacent, Legs.cosine_pos hadjacent,
      Legs.tangent_eq hadjacent (opposite_nonneg side)⟩
  constructor
  · intro q hroom
    exact ⟨htangents q hroom, stepInward_eq_measured slope w q⟩
  · intro q limit
    refine ⟨?_, passes_congr hw hnonneg hquotient limit q⟩
    exact isChain_of_room (fun q hroom => ⟨rfl, htangents q hroom⟩) limit q

/-- A quadrilateral with little room for a pen of width 12, and a slope that is far off for
triangles without adjacent leg.  Beside the bottom corner there is hardly more than a pen width
left. -/
theorem tangents_of_passes_narrow :
    let slope : ℚ → ℚ → ℚ := fun adjacent opposite =>
      if 0 < adjacent then opposite / adjacent else -1000
    let q : Quad ℚ := ⟨⟨100, 30⟩, ⟨110, 2⟩, ⟨5, 0⟩, ⟨0, 25⟩⟩
    (0 : ℚ) < 12 ∧ (∀ l : Legs ℚ, 0 < l.adjacent → 0 ≤ l.opposite →
        ((l.measure slope : ℚ) : ℝ) = l.tangent) ∧
      q.hasRoom 12 = true ∧
      Side.all.map (q.legs slope 12) = [⟨28, 10⟩, ⟨93, 2⟩, ⟨301 / 22, 7⟩, ⟨88, 5⟩] ∧
      (∀ side, (q.legs slope 12 side).HasTangent 12) ∧
      passes slope 12 9 q = passes Scalar.slope 12 9 q := by
  intro slope q
  have hwidth : (0 : ℚ) < 12 := by decide
  have hslope : ∀ l : Legs ℚ, 0 < l.adjacent → 0 ≤ l.opposite →
      ((l.measure slope : ℚ) : ℝ) = l.tangent := by
    intro l hadjacent hopposite
    have hmeasure : l.measure slope = l.opposite / l.adjacent := if_pos hadjacent
    rw [hmeasure, Legs.tangent_eq hadjacent hopposite, Rat.cast_div]
  have hroom : q.hasRoom 12 = true := by decide +kernel
  obtain ⟨hpass, hpasses⟩ := tangents_of_passes hwidth hslope
  exact ⟨hwidth, hslope, hroom, by decide +kernel, (hpass q hroom).1, (hpasses q 9).2⟩

end Quad

end PenPlotter
