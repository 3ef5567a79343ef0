import PenPlotter.Fill
import PenPlotter.Proofs.Binary64.Units

/-!
# Which circles can be filled

A circle is filled with circles whose radii are one pen width apart, for as long as more than a pen
width is left.  The subtractions round, and one that has no effect is repeated for ever.

Whether that happens is settled by the second subtraction (`IsStuck`): if it makes the radius
smaller, then so does every one that follows, and the circles come to an end.  The first one does
not settle it, since a tie may go down once and up from then on.  It takes a radius of more than
`2 ^ 53` pen widths to be stuck (`IsStuck.two_pow_mul_lt`).
-/

namespace PenPlotter

open Binary64

/-! ## 1. Subtracting the pen width again and again -/

/-- What is left of a radius after a number of subtractions of the pen width. -/
def remaining (w r : Float) : Nat → Float
  | 0 => r
  | n + 1 => remaining w r n - w

/-- Whether subtractions of the pen width from a radius come to have no effect. -/
def IsStuck (w r : Float) : Prop :=
  w < r ∧ ¬ r - w - w < r - w

instance (w r : Float) : Decidable (IsStuck w r) :=
  inferInstanceAs (Decidable (_ ∧ _))

theorem remaining_sub (w r : Float) (n : Nat) :
    remaining w (r - w) n = remaining w r (n + 1) := by
  induction n with
  | zero => rfl
  | succ n ih => exact congrArg (· - w) ih

section

variable {w r : Float} {W X : Nat}

theorem units?_sub_width (hw : units? w = some (W : Int)) (hW : 0 < W)
    (hr : units? r = some (X : Int)) (hle : W ≤ X) :
    units? (r - w) = some (nearest (X - W) : Int) := by
  rw [units?_sub hr hw (by omega) (by omega), ← Int.ofNat_sub hle, nearestInt_natCast]

theorem width_lt_iff (hw : units? w = some (W : Int)) (hr : units? r = some (X : Int)) :
    w < r ↔ W < X :=
  (lt_iff_of_units hw hr).trans Int.ofNat_lt

/-- What remains, in units. -/
theorem units?_remaining (hw : units? w = some (W : Int)) (hW : 0 < W)
    (hr : units? r = some (X : Int)) {n : Nat} (hleft : ∀ m < n, W < countdown W X m) :
    units? (remaining w r n) = some (countdown W X n : Int) := by
  induction n with
  | zero => exact hr
  | succ n ih =>
    have hn := ih fun m hm => hleft m (Nat.lt_succ_of_lt hm)
    exact units?_sub_width hw hW hn (Nat.le_of_lt (hleft n (Nat.lt_succ_self n)))

/-- As long as more than a pen width remains, it does so in units too. -/
theorem left_iff (hw : units? w = some (W : Int)) (hW : 0 < W) (hr : units? r = some (X : Int))
    (n : Nat) : (∀ m < n, w < remaining w r m) ↔ ∀ m < n, W < countdown W X m := by
  induction n with
  | zero => simp
  | succ n ih =>
    rw [Nat.forall_lt_succ_right, Nat.forall_lt_succ_right, ih]
    refine and_congr_right fun hleft => ?_
    exact width_lt_iff hw (units?_remaining hw hW hr hleft)

theorem representable_units (hr : units? r = some (X : Int)) : Representable X := by
  have hrep := representable_of_units hr
  rwa [Int.natAbs_natCast] at hrep

/-- Being stuck, in units. -/
theorem isStuck_iff (hw : units? w = some (W : Int)) (hW : 0 < W)
    (hr : units? r = some (X : Int)) :
    IsStuck w r ↔ W < X ∧ W < countdown W X 1 ∧ countdown W X 2 = countdown W X 1 := by
  rw [IsStuck, width_lt_iff hw hr]
  refine and_congr_right fun hWX => ?_
  have hfirst : units? (r - w) = some (countdown W X 1 : Int) :=
    units?_sub_width hw hW hr (Nat.le_of_lt hWX)
  have hpos : 0 < countdown W X 1 := nearest_pos (Nat.sub_pos_of_lt hWX)
  have hsecond := units?_sub hfirst hw (by omega) (by omega)
  rw [lt_iff_of_units hsecond hfirst]
  rcases Nat.lt_or_ge W (countdown W X 1) with hlt | hge
  · have hle : countdown W X 2 ≤ countdown W X 1 := countdown_succ_le (representable_units hr) 1
    rw [← Int.ofNat_sub (Nat.le_of_lt hlt), nearestInt_natCast]
    change ¬ ((countdown W X 2 : Int) < countdown W X 1) ↔ _
    omega
  · have hnonpos := nearestInt_nonpos (a := (countdown W X 1 : Int) - W) (by omega)
    omega

/-- **A radius that is stuck is more than `2 ^ 53` pen widths long.** -/
theorem IsStuck.two_pow_mul_lt (h : IsStuck w r) (hw : units? w = some (W : Int)) (hW : 0 < W)
    (hr : units? r = some (X : Int)) : 2 ^ 53 * W < X := by
  obtain ⟨-, hfirst, hstuck⟩ := (isStuck_iff hw hW hr).mp h
  have hle : countdown W X 1 ≤ X := countdown_succ_le (representable_units hr) 0
  have hhalf : 2 * W ≤ 2 ^ excess (countdown W X 1 - W) :=
    two_mul_le_of_le_nearest_sub (Nat.le_of_lt hfirst) (Nat.le_of_eq hstuck.symm)
  have hexcess : excess (countdown W X 1 - W) ≠ 0 := by
    intro hzero
    rw [hzero] at hhalf
    omega
  have hlarge := two_pow_excess_le hexcess
  rw [Nat.pow_add] at hlarge
  omega

/-- **Being stuck, more than a pen width remains for ever.** -/
theorem IsStuck.lt_remaining (h : IsStuck w r) (hw : units? w = some (W : Int)) (hW : 0 < W)
    (hr : units? r = some (X : Int)) (n : Nat) : w < remaining w r n := by
  obtain ⟨hWX, hfirst, hstuck⟩ := (isStuck_iff hw hW hr).mp h
  have hleft : ∀ m < n + 1, W < countdown W X m := by
    intro m _
    cases m with
    | zero => exact hWX
    | succ m => rwa [countdown_stuck hstuck m]
  exact (left_iff hw hW hr (n + 1)).mpr hleft n (Nat.lt_succ_self n)

theorem second_lt_of_not_isStuck (h : ¬ IsStuck w r) (hw : units? w = some (W : Int))
    (hW : 0 < W) (hr : units? r = some (X : Int)) (hWX : W < X) (hfirst : W < countdown W X 1) :
    countdown W X 2 < countdown W X 1 := by
  have hle : countdown W X 2 ≤ countdown W X 1 := countdown_succ_le (representable_units hr) 1
  refine Nat.lt_of_le_of_ne hle ?_
  intro heq
  exact h ((isStuck_iff hw hW hr).mpr ⟨hWX, hfirst, heq⟩)

/-- **Not being stuck, each subtraction makes the radius smaller**, as long as more than a pen width
is left. -/
theorem remaining_lt_of_not_isStuck (h : ¬ IsStuck w r) (hw : units? w = some (W : Int))
    (hW : 0 < W) (hr : units? r = some (X : Int)) {n : Nat}
    (hleft : ∀ m ≤ n, w < remaining w r m) : remaining w r (n + 1) < remaining w r n := by
  have hleft' : ∀ m < n + 1, W < countdown W X m :=
    (left_iff hw hW hr (n + 1)).mp fun m hm => hleft m (Nat.le_of_lt_succ hm)
  have hless : countdown W X (n + 1) < countdown W X n :=
    countdown_lt (representable_units hr)
      (second_lt_of_not_isStuck h hw hW hr (hleft' 0 (Nat.succ_pos n))) n
      fun m hm => hleft' m (Nat.lt_succ_of_le hm)
  have hn := units?_remaining hw hW hr fun m hm => hleft' m (Nat.lt_succ_of_lt hm)
  have hsucc := units?_remaining hw hW hr hleft'
  exact (lt_iff_of_units hsucc hn).mpr (Int.ofNat_lt.mpr hless)

/-- **Not being stuck, no more than a pen width is left at last.** -/
theorem exists_not_lt_remaining (h : ¬ IsStuck w r) (hw : units? w = some (W : Int))
    (hW : 0 < W) (hr : units? r = some (X : Int)) :
    ∃ n, ¬ w < remaining w r n ∧ ∀ m < n, w < remaining w r m := by
  rcases Nat.lt_or_ge W X with hWX | hge
  · obtain ⟨n, hend, hleft⟩ := exists_countdown_le (representable_units hr)
      (second_lt_of_not_isStuck h hw hW hr hWX)
    refine ⟨n, ?_, (left_iff hw hW hr n).mpr hleft⟩
    intro hlt
    have := (width_lt_iff hw (units?_remaining hw hW hr hleft)).mp hlt
    omega
  · refine ⟨0, ?_, fun m hm => absurd hm (Nat.not_lt_zero m)⟩
    intro hlt
    have := (width_lt_iff hw hr).mp hlt
    omega

end

/-! ## 2. The circles -/

theorem ringRadii?_of_not_lt {w r : Float} (hend : ¬ w < r) : ringRadii? w r = some [] := by
  rw [ringRadii?]
  exact if_neg hend

/-- **What goes down by a pen width each time gives the circles**, if the count of steps left falls
as long as more than a pen width is left, and no more than that is left at the end. -/
theorem ringRadii?_of_steps {K : Type} [Scalar K] {w : K} (x : Nat → K) {n : Nat}
    (hnext : ∀ k < n, x (k + 1) = x k - w) (hleft : ∀ k < n, Scalar.below w (x k) = true)
    (hsteps : ∀ k < n, Scalar.stepsLeft w (x (k + 1)) < Scalar.stepsLeft w (x k))
    (hend : Scalar.below w (x n) = false) :
    ringRadii? w (x 0) = some ((List.range n).map fun k => x (k + 1)) := by
  induction n generalizing x with
  | zero =>
    rw [ringRadii?, if_neg (Bool.eq_false_iff.mp hend)]
    rfl
  | succ n ih =>
    have hrest := ih (fun k => x (k + 1)) (fun k hk => hnext (k + 1) (Nat.succ_lt_succ hk))
      (fun k hk => hleft (k + 1) (Nat.succ_lt_succ hk))
      (fun k hk => hsteps (k + 1) (Nat.succ_lt_succ hk)) hend
    have hfirst : x 1 = x 0 - w := hnext 0 (Nat.succ_pos n)
    have hfall : Scalar.stepsLeft w (x 0 - w) < Scalar.stepsLeft w (x 0) :=
      hfirst ▸ hsteps 0 (Nat.succ_pos n)
    rw [ringRadii?, if_pos (hleft 0 (Nat.succ_pos n)), dif_pos hfall, ← hfirst, hrest,
      List.range_succ_eq_map, Option.map_some, List.map_cons, List.map_map]
    rfl

/-- The circles that are given come to an end where no more than a pen width is left. -/
theorem exists_not_lt_of_ringRadii? (w r : Float) {l : List Float}
    (h : ringRadii? w r = some l) : ∃ n, ¬ w < remaining w r n := by
  induction r using ringRadii?.induct w generalizing l with
  | case1 r hbelow hsteps ih =>
    rw [ringRadii?, if_pos hbelow, dif_pos hsteps] at h
    obtain ⟨rest, hrest, -⟩ := Option.map_eq_some_iff.mp h
    obtain ⟨n, hn⟩ := ih hrest
    exact ⟨n + 1, remaining_sub w r n ▸ hn⟩
  | case2 r hbelow hsteps =>
    rw [ringRadii?, if_pos hbelow, dif_neg hsteps] at h
    cases h
  | case3 r hbelow => exact ⟨0, hbelow⟩

/-- If each subtraction makes the rank smaller, the circles are those of what is left after each. -/
theorem ringRadii?_eq_some {w r : Float} {n : Nat} (hend : ¬ w < remaining w r n)
    (hleft : ∀ m < n, w < remaining w r m)
    (hrank : ∀ m < n, (rank (remaining w r (m + 1))).toNat < (rank (remaining w r m)).toNat) :
    ringRadii? w r = some ((List.range n).map fun m => remaining w r (m + 1)) :=
  ringRadii?_of_steps (remaining w r) (fun _ _ => rfl) hleft hrank (Bool.eq_false_iff.mpr hend)

section

variable {w r : Float} {W X : Nat}

/-- **A radius that is not stuck gives the circles that are left after each subtraction.** -/
theorem ringRadii?_of_not_isStuck (h : ¬ IsStuck w r) (hw : units? w = some (W : Int))
    (hW : 0 < W) (hr : units? r = some (X : Int)) :
    ∃ n, (∀ m < n, w < remaining w r m) ∧ ¬ w < remaining w r n ∧
      ringRadii? w r = some ((List.range n).map fun m => remaining w r (m + 1)) := by
  obtain ⟨n, hend, hleft⟩ := exists_not_lt_remaining h hw hW hr
  have hunits : ∀ k ≤ n, units? (remaining w r k) = some (countdown W X k : Int) := by
    intro k hk
    have hleftk := (left_iff hw hW hr k).mp fun j hj => hleft j (Nat.lt_of_lt_of_le hj hk)
    exact units?_remaining hw hW hr hleftk
  refine ⟨n, hleft, hend, ringRadii?_eq_some hend hleft ?_⟩
  intro m hm
  have hm' := hunits m (Nat.le_of_lt hm)
  have hpos : W < countdown W X m := (width_lt_iff hw hm').mp (hleft m hm)
  have hless := (lt_iff_of_units (hunits (m + 1) hm) hm').mp
    (remaining_lt_of_not_isStuck h hw hW hr fun k hk => hleft k (Nat.lt_of_le_of_lt hk hm))
  have hrank := rank_lt_rank_of_units (hunits (m + 1) hm) hm' hless
  have hrankpos := rank_pos_of_units hm' (by omega)
  omega

/-- **A radius that is stuck gives no circles.** -/
theorem ringRadii?_of_isStuck (h : IsStuck w r) (hw : units? w = some (W : Int)) (hW : 0 < W)
    (hr : units? r = some (X : Int)) : ringRadii? w r = none := by
  refine Option.eq_none_iff_forall_ne_some.mpr ?_
  intro l hl
  obtain ⟨n, hn⟩ := exists_not_lt_of_ringRadii? w r hl
  exact hn (h.lt_remaining hw hW hr n)

end

end PenPlotter
