import Mathlib.Logic.Relation
import PenPlotter.Proofs.Exact.Rational
import PenPlotter.Proofs.Fill.Passes
import PenPlotter.Proofs.Fill.Selection

/-!
# A fill does not turn a quadrilateral inside out

A quadrilateral in canonical order has no negative gap, and a pass that finds room leaves none that
is not positive (`Quad.Pass.gaps_pos`).  So much holds in exact arithmetic of any four points, and
it does not matter which slopes a pass measures: a slope that is not negative takes a corner less
far in, never further, and each gap loses two pen widths at most.

Nothing is said here about how many passes there are.  With steep slopes the gaps need not shrink
at all, which is why the passes have a limit.
-/

namespace PenPlotter.Quad

variable {w : ℚ} {q r : Quad ℚ}

/-! ## 1. Corners and gaps -/

theorem forall_mem_gaps_iff {P : ℚ → Prop} :
    (∀ gap ∈ q.gaps, P gap) ↔
      P (q.top.x - q.left.x) ∧ P (q.right.x - q.bottom.x) ∧ P (q.left.y - q.bottom.y) ∧
        P (q.top.y - q.right.y) := by
  have hgaps : q.gaps =
      [q.top.x - q.left.x, q.right.x - q.bottom.x, q.left.y - q.bottom.y,
        q.top.y - q.right.y] := rfl
  rw [hgaps]
  simp

/-- There is room if each gap is wider than two pen widths. -/
theorem hasRoom_eq_true_iff : q.hasRoom w = true ↔ ∀ gap ∈ q.gaps, w + w < gap := by
  rw [hasRoom, List.all_eq_true]
  exact forall₂_congr fun _ _ => below_eq_true_iff

/-- What does not come after in a comparison of two coordinates is not less in the first. -/
theorem le_of_then_ne_lt {s t : ℚ} {o : Ordering} (h : (compare s t).then o ≠ .lt) : t ≤ s := by
  by_contra hlt
  rw [compare_lt_iff_lt.mpr (lt_of_not_ge hlt)] at h
  exact h rfl

/-- **The corners in canonical order bound the points on all four sides.** -/
theorem canonical_bounds (a b c d : Point ℚ) :
    ∀ p ∈ [a, b, c, d], (canonical a b c d).left.x ≤ p.x ∧ p.x ≤ (canonical a b c d).right.x ∧
      (canonical a b c d).bottom.y ≤ p.y ∧ p.y ≤ (canonical a b c d).top.y := by
  intro p hp
  exact ⟨le_of_then_ne_lt ((first_spec leftFirst a [b, c, d]).2 p hp),
    le_of_then_ne_lt ((first_spec rightFirst a [b, c, d]).2 p hp),
    le_of_then_ne_lt ((first_spec bottomFirst a [b, c, d]).2 p hp),
    le_of_then_ne_lt ((first_spec topFirst a [b, c, d]).2 p hp)⟩

/-- **In canonical order no gap is negative.** -/
theorem gaps_canonical_nonneg (a b c d : Point ℚ) :
    ∀ gap ∈ (canonical a b c d).gaps, 0 ≤ gap := by
  have hbounds := canonical_bounds a b c d
  have htop := hbounds _ (first_spec topFirst a [b, c, d]).1
  have hright := hbounds _ (first_spec rightFirst a [b, c, d]).1
  have hbottom := hbounds _ (first_spec bottomFirst a [b, c, d]).1
  have hleft := hbounds _ (first_spec leftFirst a [b, c, d]).1
  rw [forall_mem_gaps_iff]
  exact ⟨sub_nonneg.mpr htop.1, sub_nonneg.mpr hbottom.2.1, sub_nonneg.mpr hleft.2.2.1,
    sub_nonneg.mpr hright.2.2.2⟩

/-- No gap is wider than the widest. -/
theorem le_widest {gap : ℚ} (hgap : gap ∈ q.gaps) : gap ≤ q.widest := by
  have hself : ∀ x : ℚ, Scalar.below x x = false := by
    intro x
    rw [Bool.eq_false_iff, ne_eq, below_eq_true_iff]
    exact lt_irrefl x
  have htrans : ∀ x y z : ℚ, Scalar.below x y = true → Scalar.below y z = true →
      Scalar.below x z = true := by
    intro x y z hxy hyz
    rw [below_eq_true_iff] at hxy hyz ⊢
    exact hxy.trans hyz
  have hbest := (widest_spec hself htrans q).2 gap (List.mem_cons_of_mem _ hgap)
  rw [Bool.eq_false_iff, ne_eq, below_eq_true_iff] at hbest
  exact le_of_not_gt hbest

/-! ## 2. One pass -/

/-- Whether no slope is negative. -/
structure Slopes.IsNonneg (t : Slopes ℚ) : Prop where
  left : 0 ≤ t.left
  top : 0 ≤ t.top
  right : 0 ≤ t.right
  bottom : 0 ≤ t.bottom

/-- Slopes are measured on sides, which are not negative. -/
theorem slopes_isNonneg {slope : ℚ → ℚ → ℚ} (hslope : ∀ x y, 0 ≤ x → 0 ≤ y → 0 ≤ slope x y) :
    (q.slopes slope w).IsNonneg where
  left := hslope _ _ (abs_nonneg _) (abs_nonneg _)
  top := hslope _ _ (abs_nonneg _) (abs_nonneg _)
  right := hslope _ _ (abs_nonneg _) (abs_nonneg _)
  bottom := hslope _ _ (abs_nonneg _) (abs_nonneg _)

/-- Whether a pass leads from one quadrilateral to another: there is room for it, and some slopes,
none of them negative, take the corners there. -/
def Pass (w : ℚ) (q r : Quad ℚ) : Prop :=
  q.hasRoom w = true ∧ ∃ t : Slopes ℚ, t.IsNonneg ∧ r = q.shifted w t

theorem pass_stepInward {slope : ℚ → ℚ → ℚ} (hslope : ∀ x y, 0 ≤ x → 0 ≤ y → 0 ≤ slope x y)
    (hroom : q.hasRoom w = true) : Pass w q (q.stepInward slope w) :=
  ⟨hroom, q.slopes slope w, slopes_isNonneg hslope, stepInward_eq slope w q⟩

/-- **After a pass all gaps are positive.**  Two of the four moves narrow a gap, by a pen width
each, and the slope of one of them takes something back. -/
theorem Pass.gaps_pos (hw : 0 < w) (h : Pass w q r) : ∀ gap ∈ r.gaps, 0 < gap := by
  obtain ⟨hroom, t, ht, rfl⟩ := h
  obtain ⟨htop, hright, hleft, hbottom⟩ :=
    forall_mem_gaps_iff.mp (hasRoom_eq_true_iff.mp hroom)
  have htleft : 0 ≤ w * t.left := mul_nonneg hw.le ht.left
  have httop : 0 ≤ w * t.top := mul_nonneg hw.le ht.top
  have htright : 0 ≤ w * t.right := mul_nonneg hw.le ht.right
  have htbottom : 0 ≤ w * t.bottom := mul_nonneg hw.le ht.bottom
  rw [forall_mem_gaps_iff]
  refine ⟨?_, ?_, ?_, ?_⟩
  · change 0 < q.top.x - (w - w * t.top) - (q.left.x + w)
    linarith
  · change 0 < q.right.x - w - (q.bottom.x + (w - w * t.bottom))
    linarith
  · change 0 < q.left.y - (w - w * t.left) - (q.bottom.y + w)
    linarith
  · change 0 < q.top.y - w - (q.right.y + (w - w * t.right))
    linarith

/-! ## 3. Many passes -/

/-- **Passes never make a gap negative**, however many there are. -/
theorem gaps_nonneg_of_reflTransGen (hw : 0 < w) (hq : ∀ gap ∈ q.gaps, 0 ≤ gap)
    (h : Relation.ReflTransGen (Pass w) q r) : ∀ gap ∈ r.gaps, 0 ≤ gap := by
  induction h with
  | refl => exact hq
  | tail _ hpass _ =>
    intro gap hgap
    exact (hpass.gaps_pos hw gap hgap).le

/-- **The turns of a fill are passes, one after the other.** -/
theorem isChain_passes {slope : ℚ → ℚ → ℚ} (hslope : ∀ x y, 0 ≤ x → 0 ≤ y → 0 ≤ slope x y)
    (limit : Nat) (q : Quad ℚ) : (q :: passes slope w limit q).IsChain (Pass w) :=
  isChain_of_room (fun _ => pass_stepInward hslope) limit q

theorem gaps_pos_of_mem_passes {slope : ℚ → ℚ → ℚ}
    (hslope : ∀ x y, 0 ≤ x → 0 ≤ y → 0 ≤ slope x y) (hw : 0 < w) {limit : Nat}
    (hr : r ∈ passes slope w limit q) : ∀ gap ∈ r.gaps, 0 < gap := by
  obtain ⟨k, -, hroom, rfl⟩ := exists_of_mem_passes hr
  rw [inward_succ]
  exact (pass_stepInward hslope hroom).gaps_pos hw

/-- **No pass of a fill turns the quadrilateral inside out.**  Any four points in canonical order
have no negative gap, and after each pass that finds room all gaps are positive, whatever slopes it
takes as long as they are not negative.  So no gap becomes negative, however many passes follow one
another; and the turns of a fill are such passes, whatever way of measuring slopes they are made
with. -/
theorem gaps_of_passes {w : ℚ} (hw : 0 < w) (a b c d : Point ℚ) :
    let start : Quad ℚ := canonical a b c d
    (∀ gap ∈ start.gaps, 0 ≤ gap) ∧
      (∀ q r : Quad ℚ, Pass w q r → ∀ gap ∈ r.gaps, 0 < gap) ∧
      (∀ r : Quad ℚ, Relation.ReflTransGen (Pass w) start r → ∀ gap ∈ r.gaps, 0 ≤ gap) ∧
      ∀ slope : ℚ → ℚ → ℚ, (∀ x y, 0 ≤ x → 0 ≤ y → 0 ≤ slope x y) → ∀ limit : Nat,
        (start :: passes slope w limit start).IsChain (Pass w) ∧
          ∀ r ∈ passes slope w limit start, ∀ gap ∈ r.gaps, 0 < gap := by
  intro start
  have hstart : ∀ gap ∈ start.gaps, 0 ≤ gap := gaps_canonical_nonneg a b c d
  refine ⟨hstart, ?_, ?_, ?_⟩
  · intro q r hpass
    exact hpass.gaps_pos hw
  · intro r hpasses
    exact gaps_nonneg_of_reflTransGen hw hstart hpasses
  · intro slope hslope limit
    refine ⟨isChain_passes hslope limit start, ?_⟩
    intro r hr
    exact gaps_pos_of_mem_passes hslope hw hr

/-- A tilted quadrilateral.  A pen of width 12 turns twice in it, with the slopes of its sides.
There is room for one pass with a pen of width 24, and other slopes than those of the sides would
widen one of the gaps; none becomes negative. -/
theorem gaps_of_passes_tilted :
    let start : Quad ℚ := canonical ⟨60, 90⟩ ⟨100, 40⟩ ⟨40, 0⟩ ⟨0, 50⟩
    let other : Quad ℚ := start.shifted 24 ⟨1, 3, 0, 1 / 2⟩
    let turns := passes Scalar.slope 12 5 start
    start.gaps = [60, 60, 50, 50] ∧
      ((0 : ℚ) < 12 ∧ (∀ x y : ℚ, 0 ≤ x → 0 ≤ y → 0 ≤ Scalar.slope x y) ∧
        turns.map gaps = [[228 / 5, 43, 36, 36], [476 / 15, 709 / 27, 159 / 7, 732 / 31]] ∧
        ∀ r ∈ turns, ∀ gap ∈ r.gaps, 0 < gap) ∧
      (0 : ℚ) < 24 ∧ Pass 24 start other ∧ other.gaps = [84, 24, 26, 2] ∧
        ∀ gap ∈ other.gaps, 0 < gap := by
  intro start other turns
  have hpass : Pass 24 start other :=
    ⟨by decide +kernel, ⟨1, 3, 0, 1 / 2⟩, ⟨by decide, by decide, by decide, by decide +kernel⟩, rfl⟩
  have h12 : (0 : ℚ) < 12 := by decide
  have h24 : (0 : ℚ) < 24 := by decide
  have hslope : ∀ x y : ℚ, 0 ≤ x → 0 ≤ y → 0 ≤ Scalar.slope x y := fun _ _ => slope_nonneg
  refine ⟨by decide +kernel, ⟨h12, hslope, by decide +kernel, ?_⟩, h24, hpass, by decide +kernel, ?_⟩
  · exact ((gaps_of_passes h12 _ _ _ _).2.2.2 Scalar.slope hslope 5).2
  · exact (gaps_of_passes h24 ⟨60, 90⟩ ⟨100, 40⟩ ⟨40, 0⟩ ⟨0, 50⟩).2.1 start other hpass

end PenPlotter.Quad
