import PenPlotter.Proofs.Binary64.Decimal
import PenPlotter.Proofs.Exact.Rational
import PenPlotter.Proofs.Fill.Corners
import PenPlotter.Proofs.Fill.Rings

/-!
# How many circles fill a circle

A circle of radius `r` is filled with circles whose radii are `r - w`, `r - 2 w` and so on, for as
long as they are positive.  So there are `⌈r / w⌉ - 1` of them (`ringCount`), and the last one is no
wider than the pen.

That is so in exact arithmetic (`ringRadii?_rational`).  Doubles do the same with whole numbers of
up to 53 binary digits, since nothing is rounded on the way (`ringRadii?_ofInt`).
-/

namespace PenPlotter

open Binary64

/-! ## 1. Exact numbers -/

/-- How many pen widths can be taken off a radius so that something is left. -/
def ringCount (w r : ℚ) : Nat :=
  (⌈r / w⌉ - 1).toNat

section

variable {w r : ℚ}

/-- A pen width can be taken off as long as more than one is left. -/
theorem lt_ringCount_iff (hw : 0 < w) {k : Nat} : k < ringCount w r ↔ w < r - k * w := by
  have hceil : k < ringCount w r ↔ ((k + 1 : Nat) : Int) < ⌈r / w⌉ := by
    rw [ringCount]
    omega
  rw [hceil, Int.lt_ceil, lt_div_iff₀ hw, Int.cast_natCast, Nat.cast_succ, add_mul, one_mul,
    lt_sub_iff_add_lt, add_comm]

/-- What is left when no further pen width can be taken off. -/
theorem sub_ringCount_mul_le (hw : 0 < w) : r - ringCount w r * w ≤ w :=
  not_lt.mp fun hlt => Nat.lt_irrefl _ ((lt_ringCount_iff hw).mpr hlt)

/-- The radii that are left after each subtraction of the pen width, as long as they are
positive. -/
def rings (w r : ℚ) : List ℚ :=
  (List.range (ringCount w r)).map fun k => r - (k + 1 : Nat) * w

theorem length_rings : (rings w r).length = ringCount w r := by
  rw [rings, List.length_map, List.length_range]

/-- The radii get smaller. -/
theorem pairwise_rings (hw : 0 < w) : (rings w r).Pairwise (· > ·) := by
  refine List.pairwise_map.mpr (List.pairwise_lt_range.imp fun {j k} hjk => ?_)
  have hmul : ((j + 1 : Nat) : ℚ) * w < (k + 1 : Nat) * w :=
    mul_lt_mul_of_pos_right (Nat.cast_lt.mpr (Nat.succ_lt_succ hjk)) hw
  exact sub_lt_sub_left hmul r

/-- The last radius is no wider than the pen. -/
theorem le_of_getLast?_rings (hw : 0 < w) {last : ℚ} (hlast : last ∈ (rings w r).getLast?) :
    last ≤ w := by
  rw [rings, List.getLast?_map, List.getLast?_range] at hlast
  split at hlast
  · cases hlast
  · rename_i hcount
    obtain rfl := Option.mem_some_iff.mp hlast
    change r - (ringCount w r - 1 + 1 : Nat) * w ≤ w
    rw [Nat.sub_one_add_one hcount]
    exact sub_ringCount_mul_le hw

theorem bounds_of_mem_rings (hw : 0 < w) {radius : ℚ} (h : radius ∈ rings w r) :
    0 < radius ∧ radius ≤ r := by
  obtain ⟨k, hk, rfl⟩ := List.mem_map.mp h
  have hlt := (lt_ringCount_iff hw).mp (List.mem_range.mp hk)
  have hnonneg : 0 ≤ k * w := mul_nonneg (Nat.cast_nonneg k) hw.le
  rw [Nat.cast_succ, add_mul, one_mul]
  constructor
  · linarith
  · linarith

/-- **The radii in exact arithmetic.** -/
theorem ringRadii?_rational (hw : 0 < w) : ringRadii? w r = some (rings w r) := by
  have hnext : ∀ k : Nat, r - (k + 1 : Nat) * w = r - k * w - w := by
    intro k
    rw [Nat.cast_succ]
    ring
  have hradii := ringRadii?_of_steps (w := w) (fun k => r - k * w) (n := ringCount w r)
    (fun k _ => hnext k) (fun k hk => below_eq_true_iff.mpr ((lt_ringCount_iff hw).mp hk)) ?_
    (Bool.eq_false_iff.mpr fun hlt => not_lt.mpr (sub_ringCount_mul_le hw)
      (below_eq_true_iff.mp hlt))
  · rwa [Nat.cast_zero, zero_mul, sub_zero] at hradii
  · intro k hk
    have hlt : 1 < ⌈(r - k * w) / w⌉ := by
      rw [Int.lt_ceil, Int.cast_one, one_lt_div hw]
      exact (lt_ringCount_iff hw).mp hk
    change ⌈(r - (k + 1 : Nat) * w) / w⌉.toNat < ⌈(r - k * w) / w⌉.toNat
    rw [hnext, sub_div, div_self hw.ne', Int.ceil_sub_one]
    omega

end

/-! ## 2. Whole numbers -/

section

variable {w r : Int}

theorem lt_ringCount_intCast_iff (hw : 0 < w) {k : Nat} :
    k < ringCount w r ↔ w < r - k * w := by
  rw [lt_ringCount_iff (Int.cast_pos.mpr hw)]
  exact_mod_cast Iff.rfl

/-- **The number of circles for a whole pen width.** -/
theorem ringCount_intCast (hw : 0 < w) :
    (ringCount w r : Int) = if w < r then (r - 1) / w else 0 := by
  have hcount : ∀ k : Nat, k < ringCount w r ↔ (k : Int) < (r - 1) / w := by
    intro k
    rw [lt_ringCount_intCast_iff hw, ← Int.add_one_le_iff (b := (r - 1) / w),
      Int.le_ediv_iff_mul_le hw, Int.add_mul, Int.one_mul]
    omega
  have hself := hcount (ringCount w r)
  split
  · have hnonneg : 0 ≤ (r - 1) / w := Int.ediv_nonneg (by omega) hw.le
    have hlast := hcount ((r - 1) / w).toNat
    omega
  · have hfirst := lt_ringCount_intCast_iff hw (r := r) (k := 0)
    rw [Int.natCast_zero, Int.zero_mul] at hfirst
    omega

/-- Doubles that are whole numbers are subtracted without rounding. -/
theorem Binary64.ofInt_sub_ofInt (hw : 0 < w) (hlt : w < r) (hr : r.natAbs ≤ 2 ^ 53) :
    ofInt r - ofInt w = ofInt (r - w) := by
  have hunits : ∀ {n : Int}, n.natAbs ≤ 2 ^ 53 → units? (ofInt n) = some (n * unitsInOne) :=
    fun hn => (isDouble_of_natAbs_le hn).units?_ofInt (by omega)
  have hpos : ∀ {n : Int}, 0 < n → 0 < n * unitsInOne := fun hn =>
    Int.mul_pos hn natCast_unitsInOne_pos
  have hdifference : IsDouble (r - w) := isDouble_of_natAbs_le (by omega)
  have hsub := units?_sub (hunits hr) (hunits (n := w) (by omega)) (hpos (hw.trans hlt)) (hpos hw)
  rw [← Int.sub_mul, hdifference.nearestInt_eq] at hsub
  exact eq_of_units_pos hsub (hunits (by omega)) (hpos (Int.sub_pos_of_lt hlt))

theorem Binary64.ofInt_lt_ofInt_iff (hw : w.natAbs ≤ 2 ^ 53) (hr : r.natAbs ≤ 2 ^ 53) :
    ofInt w < ofInt r ↔ w < r := by
  rw [lt_iff_of_units ((isDouble_of_natAbs_le hw).units?_ofInt (by omega))
    ((isDouble_of_natAbs_le hr).units?_ofInt (by omega))]
  exact Int.mul_lt_mul_right natCast_unitsInOne_pos

/-- The rank of a positive whole number falls with the number. -/
theorem Binary64.rank_ofInt_fall (hr : 0 < r) (hlt : w < r) (hw : w.natAbs ≤ 2 ^ 53)
    (hr' : r.natAbs ≤ 2 ^ 53) : (rank (ofInt w)).toNat < (rank (ofInt r)).toNat := by
  have hdouble := isDouble_of_natAbs_le hr'
  have hless := rank_ofInt_lt (isDouble_of_natAbs_le hw) hdouble (by omega) (by omega) hlt
  have hpos := rank_pos_of_units (hdouble.units?_ofInt (by omega))
    (Int.mul_pos hr natCast_unitsInOne_pos)
  omega

/-- Up to the last circle, what is left is a whole number of no more binary digits. -/
theorem natAbs_sub_mul_le (hw : 0 < w) (hr : r.natAbs ≤ 2 ^ 53) {k : Nat}
    (hk : k ≤ ringCount w r) : (r - k * w).natAbs ≤ 2 ^ 53 := by
  cases k with
  | zero => rwa [Int.natCast_zero, Int.zero_mul, Int.sub_zero]
  | succ k =>
    have hleft := (lt_ringCount_intCast_iff hw).mp hk
    have hnonneg : 0 ≤ k * w := Int.mul_nonneg (Int.natCast_nonneg k) hw.le
    rw [Int.natCast_succ, Int.add_mul, Int.one_mul]
    omega

/-- **The radii in doubles.** -/
theorem ringRadii?_ofInt (hw : 0 < w) (hw' : w ≤ 2 ^ 53) (hr : r.natAbs ≤ 2 ^ 53) :
    ringRadii? (ofInt w) (ofInt r) =
      some ((List.range (ringCount w r)).map fun k => ofInt (r - (k + 1 : Nat) * w)) := by
  have hlt : ∀ k ≤ ringCount w r, ofInt w < ofInt (r - k * w) ↔ k < ringCount w r := by
    intro k hk
    rw [ofInt_lt_ofInt_iff (by omega) (natAbs_sub_mul_le hw hr hk), lt_ringCount_intCast_iff hw]
  have hnext : ∀ k < ringCount w r,
      ofInt (r - (k + 1 : Nat) * w) = ofInt (r - k * w) - ofInt w := by
    intro k hk
    rw [ofInt_sub_ofInt hw ((lt_ringCount_intCast_iff hw).mp hk) (natAbs_sub_mul_le hw hr hk.le),
      Int.natCast_succ, Int.add_mul, Int.one_mul, Int.sub_sub]
  have hrank : ∀ k < ringCount w r, (rank (ofInt (r - (k + 1 : Nat) * w))).toNat <
      (rank (ofInt (r - k * w))).toNat := by
    intro k hk
    have hleft := (lt_ringCount_intCast_iff hw).mp hk
    have hfall : r - (k + 1 : Nat) * w < r - k * w := by
      rw [Int.natCast_succ, Int.add_mul]
      omega
    exact rank_ofInt_fall (hw.trans hleft) hfall (natAbs_sub_mul_le hw hr hk)
      (natAbs_sub_mul_le hw hr hk.le)
  have hradii := ringRadii?_of_steps (w := ofInt w) (fun k : Nat => ofInt (r - k * w)) hnext
    (fun k hk => (hlt k hk.le).mpr hk) hrank
    (Bool.eq_false_iff.mpr fun hleft => Nat.lt_irrefl _ ((hlt _ (Nat.le_refl _)).mp hleft))
  rwa [Int.natCast_zero, Int.zero_mul, Int.sub_zero] at hradii

end

/-! ## 3. The circles -/

variable (center : Position)

/-- The circles in exact arithmetic.  All radii are between zero and the radius of the circle, so
that nothing but rounding is done to them. -/
theorem circleStrokes?_rational {w : ℚ} (hw : 0 < w) {r : Int} (hr : IsCoordinate r) :
    circleStrokes? w center r =
      some ((rings w r).map fun radius => .circle center (roundAway radius) 0 360) := by
  have hradii : ringRadii? w (Scalar.ofInt r) = some (rings w r) := ringRadii?_rational hw
  rw [circleStrokes?, hradii, Option.map_some]
  refine congrArg some (List.map_congr_left fun radius hradius => ?_)
  obtain ⟨hpos, hle⟩ := bounds_of_mem_rings hw hradius
  have hround : toCoordinate radius = roundAway radius :=
    toCoordinate_eq_roundAway (by decide : IsCoordinate 0) hr
      (by rw [Int.cast_zero]; exact hpos.le) hle
  rw [Command.fullCircle, hround]

/-- The circles in doubles. -/
theorem circleStrokes?_ofInt {w r : Int} (hw : 0 < w) (hw' : w ≤ 2 ^ 53) (hr : r.natAbs ≤ 2 ^ 53) :
    circleStrokes? (ofInt w) center r =
      some ((List.range (ringCount w r)).map fun k =>
        .circle center (r - (k + 1 : Nat) * w) 0 360) := by
  have hradii : ringRadii? (ofInt w) (Scalar.ofInt r) =
      some ((List.range (ringCount w r)).map fun k => ofInt (r - (k + 1 : Nat) * w)) :=
    ringRadii?_ofInt hw hw' hr
  rw [circleStrokes?, hradii, Option.map_some, List.map_map]
  refine congrArg some (List.map_congr_left fun k hk => ?_)
  have hle := natAbs_sub_mul_le hw hr (k := k + 1) (List.mem_range.mp hk)
  have hlossless : IsLossless (r - (k + 1 : Nat) * w) := by
    refine ⟨?_, isDouble_of_natAbs_le hle⟩
    rw [IsCoordinate, lowestCoordinate, highestCoordinate]
    omega
  exact congrArg (Command.circle center · 0 360) hlossless.toCoordinate_ofInt

/-- **The circles that fill a circle.**  In exact arithmetic the radii are those that are left after
each subtraction of the pen width, as long as they are positive; they get smaller, and the last one
is no wider than the pen.  Each gives a full circle around the centre, with its radius rounded.
Whole numbers of up to 53 binary digits give the same circles in doubles. -/
theorem circleStrokes_rings {r : Int} (hr : IsCoordinate r) :
    (∀ w : ℚ, 0 < w → ∃ radii : List ℚ,
      ringRadii? w (Scalar.ofInt r) = some radii ∧
      (radii.length : Int) = max 0 (⌈(r : ℚ) / w⌉ - 1) ∧
      radii = (List.range radii.length).map (fun k => (r : ℚ) - (k + 1 : Nat) * w) ∧
      radii.Pairwise (· > ·) ∧
      (∀ last ∈ radii.getLast?, 0 < last ∧ last ≤ w) ∧
      circleStrokes? w center r =
        some (radii.map fun radius => .circle center (roundAway radius) 0 360)) ∧
    ∀ w : Int, 0 < w →
      max 0 (⌈(r : ℚ) / w⌉ - 1) = (if w < r then (r - 1) / w else 0) ∧
      (w ≤ 2 ^ 53 → r.natAbs ≤ 2 ^ 53 → ∃ n : Nat,
        (n : Int) = (if w < r then (r - 1) / w else 0) ∧
        ringRadii? (ofInt w) (ofInt r) =
          some ((List.range n).map fun k => ofInt (r - (k + 1 : Nat) * w)) ∧
        circleStrokes? (ofInt w) center r =
          some ((List.range n).map fun k => .circle center (r - (k + 1 : Nat) * w) 0 360)) := by
  have hcount : ∀ w : ℚ, (ringCount w r : Int) = max 0 (⌈(r : ℚ) / w⌉ - 1) := by
    intro w
    rw [ringCount]
    omega
  constructor
  · intro w hw
    refine ⟨rings w r, ringRadii?_rational hw, ?_, ?_, pairwise_rings hw, ?_,
      circleStrokes?_rational center hw hr⟩
    · rw [length_rings, hcount]
    · rw [length_rings]
      rfl
    · intro last hlast
      exact ⟨(bounds_of_mem_rings hw (List.mem_of_getLast? hlast)).1, le_of_getLast?_rings hw hlast⟩
  · intro w hw
    have hwhole := ringCount_intCast hw (r := r)
    refine ⟨(hcount w).symm.trans hwhole, ?_⟩
    intro hw' hr'
    exact ⟨ringCount w r, hwhole, ringRadii?_ofInt hw hw' hr',
      circleStrokes?_ofInt center hw hw' hr'⟩

/-- Half a unit is rounded away from zero.  A radius that is a multiple of the pen width gives a
circle fewer than the quotient, and the largest whole number of 53 digits leaves one circle in the
next one. -/
theorem circleStrokes_rings_five :
    let c : Position := ⟨50, 50⟩
    (IsCoordinate 5 ∧ (0 : ℚ) < 3 / 2 ∧
      circleStrokes? (3 / 2 : ℚ) c 5 =
        some [.circle c 4 0 360, .circle c 2 0 360, .circle c 1 0 360]) ∧
      (IsCoordinate 30 ∧ (0 : Int) < 10 ∧ (10 : Int) ≤ 2 ^ 53 ∧ (30 : Int).natAbs ≤ 2 ^ 53 ∧
        circleStrokes? (ofInt 10) c 30 = some [.circle c 20 0 360, .circle c 10 0 360]) ∧
      IsCoordinate 9007199254740992 ∧ (0 : Int) < 9007199254740991 ∧
        (9007199254740991 : Int) ≤ 2 ^ 53 ∧ (9007199254740992 : Int).natAbs ≤ 2 ^ 53 ∧
        circleStrokes? (ofInt 9007199254740991) c 9007199254740992 = some [.circle c 1 0 360] := by
  intro c
  refine ⟨⟨by decide, by decide +kernel, ?_⟩, ⟨by decide, by decide, by decide, by decide, ?_⟩,
    by decide, by decide, by decide, by decide, ?_⟩
  · obtain ⟨radii, -, hlength, hradii, -, -, hstrokes⟩ :=
      (circleStrokes_rings c (r := 5) (by decide)).1 (3 / 2) (by decide +kernel)
    have hthree : radii.length = 3 :=
      Int.natCast_inj.mp (hlength.trans (by decide +kernel))
    rw [hstrokes, hradii, hthree]
    decide +kernel
  · obtain ⟨n, hn, -, hstrokes⟩ := ((circleStrokes_rings c (r := 30) (by decide)).2 10
      (by decide)).2 (by decide) (by decide)
    obtain rfl : n = 2 := Int.natCast_inj.mp hn
    exact hstrokes
  · obtain ⟨n, hn, -, hstrokes⟩ := ((circleStrokes_rings c (r := 9007199254740992) (by decide)).2
      9007199254740991 (by decide)).2 (by decide) (by decide)
    obtain rfl : n = 1 := Int.natCast_inj.mp hn
    exact hstrokes

end PenPlotter
