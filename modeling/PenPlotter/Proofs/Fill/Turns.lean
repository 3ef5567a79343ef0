import PenPlotter.Proofs.Binary64.Sign
import PenPlotter.Proofs.Fill.Passes
import PenPlotter.Proofs.Fill.Selection

/-!
# Filling a quadrilateral comes to an end

Computed with doubles, a pass may move a corner outward, and no gap need get smaller.  What ends the
passes is their limit, which is a quotient of doubles, rounded up.  So it matters what the limit is
when the pen width is no width at all: it is zero then, since the widest gap is not below zero and a
quotient has the sign of its parts (`Quad.passLimit_eq_zero`).

Nothing is known about the slopes here.  They may be any doubles.
-/

namespace PenPlotter.Quad

open Binary64

/-- **The widest gap is zero or a gap, and neither zero nor a gap is wider.** -/
theorem widest_mem_and_not_lt (q : Quad Float) :
    q.widest ∈ ofInt 0 :: q.gaps ∧ ∀ gap ∈ ofInt 0 :: q.gaps, ¬ q.widest < gap := by
  have hself : ∀ x : Float, Scalar.below x x = false :=
    fun x => Bool.eq_false_iff.mpr (lt_irrefl x)
  have htrans : ∀ x y z : Float, Scalar.below x y = true → Scalar.below y z = true →
      Scalar.below x z = true := fun _ _ _ => lt_trans
  obtain ⟨hmem, hbest⟩ := widest_spec hself htrans q
  exact ⟨hmem, fun gap hgap => Bool.eq_false_iff.mp (hbest gap hgap)⟩

/-- **What is no width of a pen allows no passes.** -/
theorem passLimit_eq_zero (q : Quad Float) {w : Float}
    (hw : w < ofInt 0 ∨ w.isNaN = true ∨ w.isInf = true) : q.passLimit w = 0 := by
  have hwidest : HasSign .positive q.widest :=
    hasSign_of_not_lt_zero (q.widest_mem_and_not_lt.2 _ List.mem_cons_self)
  have hsign : HasSign .negative (q.widest / w) := by
    rcases hw with hneg | hnan | hinf
    · exact hwidest.div_of_lt_zero hneg
    · exact hasSign_div_of_not_finite _ _ (not_finite_of_isNaN hnan)
    · exact hasSign_div_of_not_finite _ _ (not_finite_of_isInf hinf)
  exact hsign.ceiling_eq_zero

/-- **The strokes of a fill.**  There is one move, to the left corner, and then as many turns as
there are passes: each draws to the left corner, to the other ones and to the left corner again.
There are no more passes than there are pen widths in the widest gap, and none if the pen width is
negative, infinite or not a number.  Every pass found more than two pen widths in every gap; and if
there could have been more passes, the last one left a gap that is not more than that. -/
theorem fillStrokes_turns (a b c d : Position) (w : Float) :
    let q : Quad Float := .ofPositions a b c d
    ∃ turns : List (Quad Int),
      q.fillStrokes w = .move q.left.position :: turns.flatMap (fun turn =>
        [.draw turn.left, .draw turn.top, .draw turn.right, .draw turn.bottom, .draw turn.left]) ∧
      turns = (List.range turns.length).map
        (fun k => (q.inward Scalar.slope w (k + 1)).positions) ∧
      (q.widest ∈ ofInt 0 :: q.gaps ∧ ∀ gap ∈ ofInt 0 :: q.gaps, ¬ q.widest < gap) ∧
      turns.length ≤ ceiling (q.widest / w) ∧
      (w < ofInt 0 ∨ w.isNaN = true ∨ w.isInf = true → turns = []) ∧
      (∀ k < turns.length, ∀ gap ∈ (q.inward Scalar.slope w k).gaps, w + w < gap) ∧
      (turns.length < ceiling (q.widest / w) →
        ∃ gap ∈ (q.inward Scalar.slope w turns.length).gaps, ¬ w + w < gap) := by
  intro q
  obtain ⟨p, hlimit, hpasses, hroom, hend⟩ :=
    exists_passes_eq Scalar.slope w (q.passLimit w) q
  let turns := (List.range p).map fun k => (q.inward Scalar.slope w (k + 1)).positions
  have hlength : turns.length = p := by rw [List.length_map, List.length_range]
  refine ⟨turns, ?_, by rw [hlength], q.widest_mem_and_not_lt, ?_, ?_, ?_, ?_⟩
  · rw [fillStrokes, hpasses, List.flatMap_map, List.flatMap_map]
    rfl
  · rw [hlength]
    exact hlimit
  · intro hw
    have hzero : q.passLimit w = 0 := q.passLimit_eq_zero hw
    rw [← List.length_eq_zero_iff, hlength]
    omega
  · intro k hk
    rw [hlength] at hk
    exact List.all_eq_true.mp (hroom k hk)
  · intro hlt
    rw [hlength] at hlt ⊢
    exact List.all_eq_false.mp (hend hlt)

end PenPlotter.Quad
