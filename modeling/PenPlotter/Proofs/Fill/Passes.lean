import Mathlib.Data.List.Chain
import Mathlib.Logic.Function.Iterate
import PenPlotter.Quad

/-!
# The passes of a fill

A quadrilateral is walked around once for each pass, and the passes are steps inward one after the
other.  This module says how many there are: as many as there is room for, unless the limit comes
first (`Quad.exists_passes_eq`); and it has one step in closed form, with the slopes that it
measures as parameters (`Quad.stepInward_eq`).
-/

namespace PenPlotter.Quad

variable {K : Type} [Scalar K]

/-! ## 1. The number of passes -/

section

variable (slope : K → K → K) (w : K)

/-- The quadrilateral after a number of steps inward, whether or not there is room for them. -/
def inward (q : Quad K) (n : Nat) : Quad K :=
  (stepInward slope w)^[n] q

theorem inward_zero (q : Quad K) : q.inward slope w 0 = q := rfl

theorem inward_succ (q : Quad K) (n : Nat) :
    q.inward slope w (n + 1) = (q.inward slope w n).stepInward slope w :=
  Function.iterate_succ_apply' ..

theorem passes_of_room {q : Quad K} (hroom : q.hasRoom w = true) (limit : Nat) :
    passes slope w (limit + 1) q =
      q.stepInward slope w :: passes slope w limit (q.stepInward slope w) := by
  rw [passes, if_pos hroom]

theorem passes_of_no_room {q : Quad K} (hroom : ¬ q.hasRoom w = true) (limit : Nat) :
    passes slope w (limit + 1) q = [] := by
  rw [passes, if_neg hroom]

/-- **There are as many passes as there is room for, unless the limit comes first.**  Each of them
finds room, and it is for want of room that there are fewer than the limit. -/
theorem exists_passes_eq (limit : Nat) (q : Quad K) :
    ∃ p ≤ limit,
      passes slope w limit q = (List.range p).map (fun k => q.inward slope w (k + 1)) ∧
      (∀ k < p, (q.inward slope w k).hasRoom w = true) ∧
      (p < limit → (q.inward slope w p).hasRoom w = false) := by
  induction limit generalizing q with
  | zero =>
    refine ⟨0, Nat.le_refl 0, rfl, ?_, ?_⟩
    · intro k hk
      exact absurd hk (Nat.not_lt_zero k)
    · intro hlt
      exact absurd hlt (Nat.lt_irrefl 0)
  | succ limit ih =>
    by_cases hroom : q.hasRoom w = true
    · obtain ⟨p, hp, hpasses, hall, hend⟩ := ih (q.stepInward slope w)
      refine ⟨p + 1, Nat.succ_le_succ hp, ?_, ?_, ?_⟩
      · rw [passes_of_room slope w hroom, hpasses, List.range_succ_eq_map, List.map_cons,
          List.map_map]
        rfl
      · intro k hk
        cases k with
        | zero => exact hroom
        | succ k => exact hall k (Nat.lt_of_succ_lt_succ hk)
      · intro hlt
        exact hend (Nat.lt_of_succ_lt_succ hlt)
    · refine ⟨0, Nat.zero_le _, ?_, ?_, ?_⟩
      · rw [passes_of_no_room slope w hroom]
        rfl
      · intro k hk
        exact absurd hk (Nat.not_lt_zero k)
      · intro _
        exact Bool.eq_false_iff.mpr hroom

variable {slope w} {q : Quad K}

/-- **If there is room for a number of passes and for no more, there are that many**, or as many as
the limit allows. -/
theorem passes_eq {n : Nat} (hroom : ∀ k < n, (q.inward slope w k).hasRoom w = true)
    (hend : (q.inward slope w n).hasRoom w = false) (limit : Nat) :
    passes slope w limit q =
      (List.range (min limit n)).map fun k => q.inward slope w (k + 1) := by
  obtain ⟨p, hlimit, hpasses, hall, hstop⟩ := exists_passes_eq slope w limit q
  have hle : p ≤ n := by
    by_contra hlt
    have hn := hall n (Nat.lt_of_not_le hlt)
    rw [hend] at hn
    cases hn
  have hmin : p = min limit n := by
    rcases Nat.lt_or_eq_of_le hlimit with hlt | rfl
    · have hge : n ≤ p := by
        by_contra hlt'
        have hp := hroom p (Nat.lt_of_not_le hlt')
        rw [hstop hlt] at hp
        cases hp
      omega
    · omega
  rw [hpasses, hmin]

/-- What a pass comes to is one step inward from where there was room. -/
theorem exists_of_mem_passes {limit : Nat} {r : Quad K} (hr : r ∈ passes slope w limit q) :
    ∃ k < limit, (q.inward slope w k).hasRoom w = true ∧ r = q.inward slope w (k + 1) := by
  obtain ⟨p, hlimit, hpasses, hall, -⟩ := exists_passes_eq slope w limit q
  rw [hpasses] at hr
  obtain ⟨k, hk, rfl⟩ := List.mem_map.mp hr
  have hkp : k < p := List.mem_range.mp hk
  exact ⟨k, Nat.lt_of_lt_of_le hkp hlimit, hall k hkp, rfl⟩

/-- What relates a quadrilateral with room for a pass to that behind the pass relates each of the
passes to the one before it. -/
theorem isChain_of_room {R : Quad K → Quad K → Prop}
    (hstep : ∀ q : Quad K, q.hasRoom w = true → R q (q.stepInward slope w)) (limit : Nat)
    (q : Quad K) : (q :: passes slope w limit q).IsChain R := by
  induction limit generalizing q with
  | zero => exact .singleton q
  | succ limit ih =>
    by_cases hroom : q.hasRoom w = true
    · rw [passes_of_room slope w hroom]
      exact .cons_cons (hstep q hroom) (ih _)
    · rw [passes_of_no_room slope w hroom]
      exact .singleton q

end

/-! ## 2. One pass -/

/-- The slopes that decide how far the corners go in one pass, one for each. -/
structure Slopes (K : Type) where
  left : K
  top : K
  right : K
  bottom : K

/-- The quadrilateral after a pass with given slopes. -/
def shifted (w : K) (t : Slopes K) (q : Quad K) : Quad K where
  top := ⟨q.top.x - (w - w * t.top), q.top.y - w⟩
  right := ⟨q.right.x - w, q.right.y + (w - w * t.right)⟩
  bottom := ⟨q.bottom.x + (w - w * t.bottom), q.bottom.y + w⟩
  left := ⟨q.left.x + w, q.left.y - (w - w * t.left)⟩

/-- The slopes that a pass measures.  Each is measured when its corner is to be moved, from where
the corners are by then. -/
def slopes (slope : K → K → K) (w : K) (q : Quad K) : Slopes K :=
  let q₁ := q.moveLeft slope w
  let q₂ := q₁.moveTop slope w
  let q₃ := q₂.moveRight slope w
  let left : Point K := ⟨q.left.x + w, q.left.y⟩
  let right : Point K := ⟨q₂.right.x - w, q₂.right.y⟩
  { left := slope (across left q.top) (along left q.top)
    top := slope (along q₁.top q₁.right) (across q₁.top q₁.right)
    right := slope (across right q₂.bottom) (along right q₂.bottom)
    bottom := slope (along q₃.bottom q₃.left) (across q₃.bottom q₃.left) }

/-- **A step inward is a pass with the slopes that it measures.** -/
theorem stepInward_eq (slope : K → K → K) (w : K) (q : Quad K) :
    q.stepInward slope w = q.shifted w (q.slopes slope w) := rfl

end PenPlotter.Quad
