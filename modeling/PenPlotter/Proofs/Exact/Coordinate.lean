import Mathlib.Tactic.FieldSimp
import Mathlib.Tactic.Ring
import PenPlotter.Proofs.Binary64.Sign
import PenPlotter.Proofs.Exact.Rational
import PenPlotter.Scaling

/-!
# The coordinate that a double stands for

A double stands for a device coordinate if it is finite and the whole number nearest to it, a half
going away from zero, is in the device range.  The coordinate is this whole number
(`Binary64.toCoordinate?_eq_some_iff_isCoordinateOf`).  Nothing else has a coordinate, so that no
number is cut down to the range and nothing comes of what is not a number.

The range can be told by comparing doubles (`Binary64.toCoordinate?_eq_ite`).  The highest
coordinate is no double, and the one nearest to it is the first number above the range; this is why
one of the comparisons is strict and the other is not.
-/

namespace PenPlotter

/-! ## 1. The nearest whole number -/

/-- Whether a whole number is the one nearest to a rational number.  Of two that are equally near,
it is the one farther from zero. -/
def IsNearestAway (n : ℤ) (q : ℚ) : Prop :=
  |q - n| ≤ 1 / 2 ∧ (|q - n| = 1 / 2 → |q| < |(n : ℚ)|)

theorem isNearestAway_neg_iff {n : ℤ} {q : ℚ} : IsNearestAway (-n) (-q) ↔ IsNearestAway n q := by
  rw [IsNearestAway, IsNearestAway, Int.cast_neg, neg_sub_neg, abs_sub_comm, abs_neg, abs_neg]

theorem isNearestAway_iff_of_nonneg {n : ℤ} {q : ℚ} (hq : 0 ≤ q) :
    IsNearestAway n q ↔ n = round q := by
  rw [round_eq, eq_comm, Int.floor_eq_iff, IsNearestAway, abs_le]
  constructor
  · rintro ⟨⟨hlow, hhigh⟩, htie⟩
    refine ⟨by linarith, lt_of_not_ge fun hge => ?_⟩
    -- Half a unit above a whole number the next one is farther from zero.
    have hhalf : q - n = 1 / 2 := by linarith
    have hfar := htie (by rw [hhalf]; norm_num)
    have hn : -1 < n := by
      have : (-1 : ℚ) < n := by linarith
      exact_mod_cast this
    have hn' : (0 : ℚ) ≤ n := by exact_mod_cast Int.le_of_lt_add_one (by omega : 0 < n + 1)
    rw [abs_of_nonneg hq, abs_of_nonneg hn'] at hfar
    linarith
  · rintro ⟨hlow, hhigh⟩
    refine ⟨⟨by linarith, by linarith⟩, fun htie => ?_⟩
    have hbelow : q - n = -(1 / 2) := by
      rcases (abs_eq (by norm_num)).mp htie with habove | hbelow
      · linarith
      · exact hbelow
    rw [abs_of_nonneg hq]
    exact lt_of_lt_of_le (by linarith) (le_abs_self _)

/-- There is one nearest whole number. -/
theorem isNearestAway_iff {n : ℤ} {q : ℚ} : IsNearestAway n q ↔ n = roundAway q := by
  rw [roundAway]
  split
  · rename_i hq
    exact isNearestAway_iff_of_nonneg hq
  · rename_i hq
    rw [← isNearestAway_neg_iff, isNearestAway_iff_of_nonneg (by linarith), neg_eq_iff_eq_neg]

theorem isNearestAway_roundAway (q : ℚ) : IsNearestAway (roundAway q) q :=
  isNearestAway_iff.mpr rfl

theorem roundAway_neg (q : ℚ) : roundAway (-q) = -roundAway q :=
  (isNearestAway_iff.mp (isNearestAway_neg_iff.mpr (isNearestAway_roundAway q))).symm

/-- A rounded number as a double. -/
def Whole.toFloat : Whole → Float
  | .number n => Binary64.ofInt n
  | .infinite negative => Binary64.infinite negative
  | .undefined => Binary64.undefined

namespace Binary64

open Float.Model Float.Model.UnpackedFloat

/-! ## 2. Doubles as rational numbers -/

/-- A finite double is its mantissa times a power of two. -/
theorem toRational_of_unpack {x : Float} {s : Sign} {m : Nat} {e : Int} {hm : 0 < m}
    (hx : x.toModel.unpack = .finite s m e hm) :
    toRational x = (s.apply m : Int) * (2 : ℚ) ^ e := by
  have hcanonical := isCanonical_unpack x.toModel
  rw [hx] at hcanonical
  obtain ⟨-, he, -⟩ := hcanonical.1
  have hunits : units? x = some (s.apply (size m e)) := congrArg unpackedUnits? hx
  have hsize : ((s.apply (size m e) : Int) : ℚ) = (s.apply m : Int) * (2 : ℚ) ^ (e + 1074) := by
    obtain ⟨k, hk⟩ := Int.eq_ofNat_of_zero_le (show 0 ≤ e + 1074 by omega)
    rw [size, hk, Int.toNat_natCast, zpow_natCast]
    cases s <;> simp [Sign.apply]
  have hone : (unitsInOne : ℚ) = 2 ^ (1074 : ℤ) := by
    rw [unitsInOne, size, Nat.one_mul, Nat.cast_pow]
    rfl
  rw [toRational, hunits, Option.getD_some, hsize, hone, zpow_add₀ two_ne_zero, mul_div_assoc,
    mul_div_cancel_right₀ _ (zpow_ne_zero _ two_ne_zero)]

theorem toRational_of_zero {x : Float} {s : Sign} (hx : x.toModel.unpack = .zero s) :
    toRational x = 0 := by
  have hunits : units? x = some 0 := congrArg unpackedUnits? hx
  rw [toRational, hunits, Option.getD_some, Int.cast_zero, zero_div]

/-- Adding a half and cutting off the places behind the point rounds a half up. -/
theorem natCast_nearestNat (m : Nat) (e : Int) :
    (nearestNat m e : ℤ) = roundAway ((m : ℚ) * 2 ^ e) := by
  have hnonneg : 0 ≤ (m : ℚ) * 2 ^ e := mul_nonneg m.cast_nonneg (zpow_nonneg zero_le_two _)
  rw [roundAway, if_pos hnonneg]
  cases e with
  | ofNat k =>
    have hwhole : (m : ℚ) * 2 ^ (Int.ofNat k) = (m * 2 ^ k : Nat) := by
      rw [Int.ofNat_eq_natCast, zpow_natCast, Nat.cast_mul, Nat.cast_pow, Nat.cast_ofNat]
    rw [hwhole, round_natCast, nearestNat, Nat.shiftLeft_eq]
  | negSucc k =>
    have hhalf : (m : ℚ) * 2 ^ (Int.negSucc k) + 1 / 2 =
        ((m + 2 ^ k : Nat) : ℤ) / ((2 ^ (k + 1) : Nat) : ℚ) := by
      rw [zpow_negSucc]
      push_cast
      field_simp
      ring
    rw [round_eq, hhalf, Rat.floor_intCast_div_natCast, nearestNat, Nat.shiftLeft_eq, Nat.one_mul,
      Nat.shiftRight_eq_div_pow, Int.natCast_ediv]

/-- **A finite double is rounded to the nearest whole number.** -/
theorem whole_of_isFinite {x : Float} (hx : x.isFinite = true) :
    whole x = .number (roundAway (toRational x)) := by
  have hunpack : x.toModel.unpack.isFinite = true := hx
  cases hu : x.toModel.unpack with
  | zero s =>
    rw [whole, hu, toRational_of_zero hu]
    exact congrArg Whole.number (isNearestAway_iff.mp ⟨by norm_num, by norm_num⟩)
  | finite s m e hm =>
    have hround : (nearestNat m e : ℤ) = roundAway ((m : ℚ) * 2 ^ e) := natCast_nearestNat m e
    rw [whole, hu, toRational_of_unpack hu]
    cases s with
    | positive => exact congrArg Whole.number hround
    | negative =>
      rw [Sign.apply, Int.cast_neg, Int.cast_natCast, neg_mul, roundAway_neg, ← hround]
  | infinity s => rw [hu] at hunpack; cases hunpack
  | notANumber => rw [hu] at hunpack; cases hunpack

/-! ## 3. What is not finite -/

variable {x y : Float}

theorem unpack_of_isNaN (h : x.isNaN = true) : x.toModel.unpack = .notANumber := by
  have hnan : x.toModel.unpack.isNaN = true := h
  cases hu : x.toModel.unpack with
  | notANumber => rfl
  | zero | infinity | finite => rw [hu] at hnan; cases hnan

theorem whole_of_isNaN (h : x.isNaN = true) : whole x = .undefined := by
  rw [whole, unpack_of_isNaN h]

theorem whole_of_isInf (h : x.isInf = true) : whole x = .infinite (decide (x < ofInt 0)) := by
  have hinf : x.toModel.unpack.isInf = true := h
  have hlt : x < ofInt 0 ↔ x.toModel.unpack.lt (.zero .positive) = true := by
    rw [lt_iff_unpack, unpack_zero]
  cases hu : x.toModel.unpack with
  | infinity s =>
    rw [hu] at hlt
    rw [whole, hu]
    refine congrArg Whole.infinite (Bool.eq_iff_iff.mpr (Iff.trans ?_ decide_eq_true_iff.symm))
    rw [hlt]
    cases s <;> decide
  | zero | notANumber | finite => rw [hu] at hinf; cases hinf

theorem isFinite_or (x : Float) : x.isFinite = true ∨ x.isInf = true ∨ x.isNaN = true := by
  change x.toModel.unpack.isFinite = true ∨ x.toModel.unpack.isInf = true ∨
    x.toModel.unpack.isNaN = true
  cases x.toModel.unpack with
  | zero | finite => exact .inl rfl
  | infinity => exact .inr (.inl rfl)
  | notANumber => exact .inr (.inr rfl)

/-- If one operand is no number is enough for the result to be none, then a number is the result of
numbers. -/
theorem numbers_of_strict {f : UnpackedFloat → UnpackedFloat → UnpackedFloat}
    (hleft : ∀ v, f .notANumber v = .notANumber) (hright : ∀ u, f u .notANumber = .notANumber)
    (h : (Float.ofModel (.pack (f x.toModel.unpack y.toModel.unpack))).isNaN = false) :
    x.isNaN = false ∧ y.isNaN = false := by
  have hundefined : f x.toModel.unpack y.toModel.unpack ≠ .notANumber := by
    intro hf
    change (Float.Model.pack (f x.toModel.unpack y.toModel.unpack)).unpack.isNaN = false at h
    rw [hf, unpack_pack (u := .notANumber) trivial] at h
    cases h
  constructor
  · refine eq_false_of_ne_true fun hx => hundefined ?_
    rw [unpack_of_isNaN hx, hleft]
  · refine eq_false_of_ne_true fun hy => hundefined ?_
    rw [unpack_of_isNaN hy, hright]

theorem numbers_of_add (h : (x + y).isNaN = false) : x.isNaN = false ∧ y.isNaN = false :=
  numbers_of_strict (f := UnpackedFloat.add .binary64) (fun _ => rfl) (by rintro ⟨⟩ <;> rfl) h

theorem numbers_of_mul (h : (x * y).isNaN = false) : x.isNaN = false ∧ y.isNaN = false :=
  numbers_of_strict (f := UnpackedFloat.mul .binary64) (fun _ => rfl) (by rintro ⟨⟩ <;> rfl) h

theorem numbers_of_div (h : (x / y).isNaN = false) : x.isNaN = false ∧ y.isNaN = false :=
  numbers_of_strict (f := UnpackedFloat.div .binary64) (fun _ => rfl) (by rintro ⟨⟩ <;> rfl) h

/-! ## 4. Coordinates -/

/-- Whether a double stands for a whole number that is a device coordinate. -/
def IsCoordinateOf (n : Int) (x : Float) : Prop :=
  x.isFinite = true ∧ IsNearestAway n (toRational x) ∧ -2 ^ 63 ≤ n ∧ n < 2 ^ 63

theorem isCoordinate_iff {n : Int} : IsCoordinate n ↔ -2 ^ 63 ≤ n ∧ n < 2 ^ 63 := by
  rw [IsCoordinate, lowestCoordinate, highestCoordinate]
  omega

/-- **A double has the coordinate that it stands for, and no other.** -/
theorem toCoordinate?_eq_some_iff_isCoordinateOf {n : Int} :
    toCoordinate? x = some n ↔ IsCoordinateOf n x := by
  change (whole x).coordinate? = some n ↔ _
  rcases isFinite_or x with hfinite | hinf | hnan
  · rw [whole_of_isFinite hfinite, IsCoordinateOf, isNearestAway_iff, ← isCoordinate_iff]
    change PenPlotter.coordinate? _ = some n ↔ _
    rw [coordinate?_eq_some_iff]
    constructor
    · rintro ⟨hrange, rfl⟩
      exact ⟨hfinite, rfl, hrange⟩
    · rintro ⟨-, rfl, hrange⟩
      exact ⟨hrange, rfl⟩
  · rw [whole_of_isInf hinf, IsCoordinateOf, not_finite_of_isInf hinf]
    simp [Whole.coordinate?]
  · rw [whole_of_isNaN hnan, IsCoordinateOf, not_finite_of_isNaN hnan]
    simp [Whole.coordinate?]

/-- The highest coordinate as a double is the number after it. -/
theorem units?_highestCoordinate :
    units? (ofInt highestCoordinate) = some ((2 ^ 63 : Int) * unitsInOne) := by
  decide +kernel

theorem units?_lowestCoordinate :
    units? (ofInt lowestCoordinate) = some ((-2 ^ 63 : Int) * unitsInOne) := by
  decide +kernel

/-- **The range can be told by comparing doubles.**  The rounded number has to be at least the
lowest coordinate, and below the highest one as a double. -/
theorem toCoordinate?_eq_ite (x : Float) :
    toCoordinate? x =
      if ofInt lowestCoordinate ≤ (whole x).toFloat ∧ (whole x).toFloat < ofInt highestCoordinate then
        some (toCoordinate x)
      else none := by
  change (whole x).coordinate? = if _ then some (whole x).clamp else none
  cases hwhole : whole x with
  | number n =>
    have hunits := units?_ofInt_of_whole hwhole
    have hrange : ofInt lowestCoordinate ≤ ofInt n ∧ ofInt n < ofInt highestCoordinate ↔
        IsCoordinate n := by
      rw [le_iff_of_units units?_lowestCoordinate hunits,
        lt_iff_of_units hunits units?_highestCoordinate, isCoordinate_iff]
      exact and_congr (Int.mul_le_mul_right natCast_unitsInOne_pos)
        (Int.mul_lt_mul_right natCast_unitsInOne_pos)
    change coordinate? n = if ofInt lowestCoordinate ≤ ofInt n ∧ ofInt n < ofInt highestCoordinate then
      some (max lowestCoordinate (min n highestCoordinate)) else none
    rw [coordinate?, if_congr hrange rfl rfl]
    refine if_ctx_congr Iff.rfl (fun h => congrArg some ?_) fun _ => rfl
    obtain ⟨hlow, hhigh⟩ := h
    omega
  | infinite negative =>
    cases negative with
    | true => exact (if_neg (by decide +kernel)).symm
    | false => exact (if_neg (by decide +kernel)).symm
  | undefined => exact (if_neg (by decide +kernel)).symm

/-- A double has no coordinate if it is not finite, or too far from zero. -/
theorem toCoordinate?_eq_none_iff :
    toCoordinate? x = none ↔ x.isNaN = true ∨ x.isInf = true ∨
      x.isFinite = true ∧ ∃ n, IsNearestAway n (toRational x) ∧ ¬ (-2 ^ 63 ≤ n ∧ n < 2 ^ 63) := by
  rw [Option.eq_none_iff_forall_ne_some]
  simp only [ne_eq, toCoordinate?_eq_some_iff_isCoordinateOf]
  constructor
  · intro h
    rcases isFinite_or x with hfinite | hinf | hnan
    · have hnearest := isNearestAway_roundAway (toRational x)
      exact .inr (.inr ⟨hfinite, _, hnearest, fun hrange => h _ ⟨hfinite, hnearest, hrange⟩⟩)
    · exact .inr (.inl hinf)
    · exact .inl hnan
  · rintro (hnan | hinf | ⟨-, k, hk, hrange⟩) n ⟨hfinite, hn, hrange'⟩
    · rw [not_finite_of_isNaN hnan] at hfinite
      cases hfinite
    · rw [not_finite_of_isInf hinf] at hfinite
      cases hfinite
    · rw [isNearestAway_iff.mp hk, ← isNearestAway_iff.mp hn] at hrange
      exact hrange hrange'

/-- The coordinate nearest to a finite double is that nearest to its nearest whole number. -/
theorem toCoordinate_of_isFinite (h : x.isFinite = true) :
    toCoordinate x = max (-2 ^ 63) (min (roundAway (toRational x)) (2 ^ 63 - 1)) := by
  change (whole x).clamp = _
  rw [whole_of_isFinite h]
  rfl

/-! ## 5. Scaling -/

/-- What is scaled to a coordinate is a number, and so is what it is scaled with. -/
theorem IsCoordinateOf.numbers {n : Int} {divisor scale : Float}
    (h : IsCoordinateOf n (x / divisor * scale)) :
    x.isNaN = false ∧ divisor.isNaN = false ∧ scale.isNaN = false := by
  have hnumber : (x / divisor * scale).isNaN = false := by
    refine eq_false_of_ne_true fun hnan => ?_
    have hfinite := h.1
    rw [not_finite_of_isNaN hnan] at hfinite
    cases hfinite
  obtain ⟨hquotient, hscale⟩ := numbers_of_mul hnumber
  obtain ⟨hx, hdivisor⟩ := numbers_of_div hquotient
  exact ⟨hx, hdivisor, hscale⟩

variable {s : Scaling Float} {p : Point Float} {q : Position}

theorem place?_eq_some_iff_isCoordinateOf :
    s.place? p = some q ↔ IsCoordinateOf q.x ((p.x + s.xOffset) / s.xDiv * s.scale) ∧
      IsCoordinateOf q.y ((p.y + s.yOffset) / s.yDiv * s.scale) := by
  rw [Scaling.place?_eq_some_iff, toCoordinate?_eq_some_iff_isCoordinateOf,
    toCoordinate?_eq_some_iff_isCoordinateOf]

theorem displace?_eq_some_iff_isCoordinateOf :
    s.displace? p = some q ↔ IsCoordinateOf q.x (p.x / s.xDiv * s.scale) ∧
      IsCoordinateOf q.y (p.y / s.yDiv * s.scale) := by
  rw [Scaling.displace?_eq_some_iff, toCoordinate?_eq_some_iff_isCoordinateOf,
    toCoordinate?_eq_some_iff_isCoordinateOf]

theorem measure?_eq_some_iff_isCoordinateOf {length : Float} {n : Int} :
    s.measure? length = some n ↔ IsCoordinateOf n (length / s.xDiv * s.scale) :=
  toCoordinate?_eq_some_iff_isCoordinateOf

/-- **The coordinate of a double is its nearest whole number, and is not cut down to the range.**
A double has a coordinate if it is finite and its nearest whole number, a half going away from
zero, is in the device range; then this is the coordinate, and the nearest coordinate as well.  It
has none exactly if the nearest coordinate is zero for what is not a number, or one end of the
range for what is beyond it.  Comparing doubles tells the range.  So what is scaled comes out as
the nearest whole number of what was computed, if it comes out at all, and then no number that it
was computed from was undefined. -/
theorem coordinate_of_double (x : Float) :
    (∀ n, toCoordinate? x = some n ↔ x.isFinite = true ∧ IsNearestAway n (toRational x) ∧
      -2 ^ 63 ≤ n ∧ n < 2 ^ 63) ∧
    (∀ n, toCoordinate? x = some n → toCoordinate x = n) ∧
    (toCoordinate? x = none ↔ x.isNaN = true ∨ x.isInf = true ∨
      x.isFinite = true ∧ ∃ n, IsNearestAway n (toRational x) ∧ ¬ (-2 ^ 63 ≤ n ∧ n < 2 ^ 63)) ∧
    ((x.isNaN = true → toCoordinate x = 0) ∧
      (x.isInf = true → toCoordinate x = if x < ofInt 0 then -2 ^ 63 else 2 ^ 63 - 1) ∧
      (x.isFinite = true → ∀ n, IsNearestAway n (toRational x) →
        toCoordinate x = max (-2 ^ 63) (min n (2 ^ 63 - 1)))) ∧
    (toCoordinate? x =
      if ofInt lowestCoordinate ≤ (whole x).toFloat ∧ (whole x).toFloat < ofInt highestCoordinate then
        some (toCoordinate x)
      else none) ∧
    ∀ (s : Scaling Float) (p : Point Float),
      (∀ q, (s.place? p = some q ↔
          IsCoordinateOf q.x ((p.x + s.xOffset) / s.xDiv * s.scale) ∧
            IsCoordinateOf q.y ((p.y + s.yOffset) / s.yDiv * s.scale)) ∧
        (s.place? p = some q → ∀ v ∈ [p.x, s.xOffset, s.xDiv, p.y, s.yOffset, s.yDiv, s.scale],
          v.isNaN = false)) ∧
      (∀ q, (s.displace? p = some q ↔
          IsCoordinateOf q.x (p.x / s.xDiv * s.scale) ∧
            IsCoordinateOf q.y (p.y / s.yDiv * s.scale)) ∧
        (s.displace? p = some q → ∀ v ∈ [p.x, s.xDiv, p.y, s.yDiv, s.scale], v.isNaN = false)) ∧
      ∀ n, (s.measure? x = some n ↔ IsCoordinateOf n (x / s.xDiv * s.scale)) ∧
        (s.measure? x = some n → ∀ v ∈ [x, s.xDiv, s.scale], v.isNaN = false) := by
  refine ⟨fun n => toCoordinate?_eq_some_iff_isCoordinateOf, ?_, toCoordinate?_eq_none_iff,
    ⟨?_, ?_, ?_⟩, toCoordinate?_eq_ite x, fun s p => ⟨fun q => ⟨place?_eq_some_iff_isCoordinateOf, ?_⟩,
      fun q => ⟨displace?_eq_some_iff_isCoordinateOf, ?_⟩,
      fun n => ⟨measure?_eq_some_iff_isCoordinateOf, ?_⟩⟩⟩
  · intro n hn
    rw [toCoordinate?_eq_ite] at hn
    exact Option.some.inj (Option.ite_none_right_eq_some.mp hn).2
  · intro hnan
    change (whole x).clamp = 0
    rw [whole_of_isNaN hnan]
    rfl
  · intro hinf
    change (whole x).clamp = _
    rw [whole_of_isInf hinf]
    by_cases hlt : x < ofInt 0
    · rw [if_pos hlt, decide_eq_true hlt]
      rfl
    · rw [if_neg hlt, decide_eq_false hlt]
      rfl
  · intro hfinite n hn
    rw [toCoordinate_of_isFinite hfinite, isNearestAway_iff.mp hn]
  · intro hq
    obtain ⟨hx, hy⟩ := place?_eq_some_iff_isCoordinateOf.mp hq
    obtain ⟨hxsum, hxdiv, hscale⟩ := hx.numbers
    obtain ⟨hysum, hydiv, -⟩ := hy.numbers
    obtain ⟨hpx, hxoffset⟩ := numbers_of_add hxsum
    obtain ⟨hpy, hyoffset⟩ := numbers_of_add hysum
    simp only [List.mem_cons, List.not_mem_nil, or_false, forall_eq_or_imp, forall_eq]
    exact ⟨hpx, hxoffset, hxdiv, hpy, hyoffset, hydiv, hscale⟩
  · intro hq
    obtain ⟨hx, hy⟩ := displace?_eq_some_iff_isCoordinateOf.mp hq
    obtain ⟨hpx, hxdiv, hscale⟩ := hx.numbers
    obtain ⟨hpy, hydiv, -⟩ := hy.numbers
    simp only [List.mem_cons, List.not_mem_nil, or_false, forall_eq_or_imp, forall_eq]
    exact ⟨hpx, hxdiv, hpy, hydiv, hscale⟩
  · intro hn
    obtain ⟨hx, hxdiv, hscale⟩ := (measure?_eq_some_iff_isCoordinateOf.mp hn).numbers
    simp only [List.mem_cons, List.not_mem_nil, or_false, forall_eq_or_imp, forall_eq]
    exact ⟨hx, hxdiv, hscale⟩

/-- The double just below a half is rounded to zero, not to one.  The lowest coordinate is one, and
the highest one as a double is beyond the range. -/
theorem coordinate_of_double_at_ends :
    let half := ofDecimal false 5 (-1)
    let below := ofDecimal false 49999999999999994 (-17)
    let scaling : Scaling Float := ⟨ofInt 4, ofInt (-4), ofInt 0, ofInt 0, ofInt 1⟩
    (toCoordinate? half = some 1 ∧ toCoordinate half = 1) ∧
      (toCoordinate? below = some 0 ∧ toCoordinate below = 0) ∧
      (toCoordinate? (ofInt lowestCoordinate) = some lowestCoordinate ∧
        toCoordinate (ofInt lowestCoordinate) = lowestCoordinate) ∧
      ((ofInt highestCoordinate).isFinite = true ∧
        IsNearestAway (2 ^ 63) (toRational (ofInt highestCoordinate)) ∧
        toCoordinate? (ofInt highestCoordinate) = none ∧
        toCoordinate (ofInt highestCoordinate) = 2 ^ 63 - 1) ∧
      (undefined.isNaN = true ∧ toCoordinate? undefined = none ∧ toCoordinate undefined = 0) ∧
      ((infinite true).isInf = true ∧ toCoordinate? (infinite true) = none ∧
        toCoordinate (infinite true) = -2 ^ 63) ∧
      (scaling.place? ⟨ofInt 6, ofInt 6⟩ = some ⟨2, -2⟩ ∧ (ofInt 6).isNaN = false) ∧
      (scaling.displace? ⟨ofInt 6, ofInt 6⟩ = some ⟨2, -2⟩ ∧ (ofInt 6).isNaN = false) ∧
      scaling.measure? half = some 0 ∧ half.isNaN = false := by
  intro half below scaling
  have hhalf : toCoordinate? half = some 1 := by decide +kernel
  have hbelow : toCoordinate? below = some 0 := by decide +kernel
  have hlowest : toCoordinate? (ofInt lowestCoordinate) = some lowestCoordinate := by decide +kernel
  have hhighest : toRational (ofInt highestCoordinate) = (2 ^ 63 : ℤ) := by decide +kernel
  have hnearest : IsNearestAway (2 ^ 63) (toRational (ofInt highestCoordinate)) := by
    rw [hhighest]
    exact ⟨by norm_num, by norm_num⟩
  have hplace : scaling.place? ⟨ofInt 6, ofInt 6⟩ = some ⟨2, -2⟩ := by decide +kernel
  have hdisplace : scaling.displace? ⟨ofInt 6, ofInt 6⟩ = some ⟨2, -2⟩ := by decide +kernel
  have hmeasure : scaling.measure? half = some 0 := by decide +kernel
  obtain ⟨-, hexact, -, -, -, hscaling⟩ := coordinate_of_double half
  obtain ⟨hplaces, hdisplaces, hmeasures⟩ := hscaling scaling ⟨ofInt 6, ofInt 6⟩
  obtain ⟨-, -, hnone, ⟨-, -, hends⟩, -, -⟩ := coordinate_of_double (ofInt highestCoordinate)
  obtain ⟨-, -, hnone', ⟨hzero, -, -⟩, -, -⟩ := coordinate_of_double undefined
  obtain ⟨-, -, hnone'', ⟨-, hlow, -⟩, -, -⟩ := coordinate_of_double (infinite true)
  refine ⟨⟨hhalf, hexact 1 hhalf⟩, ⟨hbelow, (coordinate_of_double below).2.1 0 hbelow⟩,
    ⟨hlowest, (coordinate_of_double _).2.1 _ hlowest⟩,
    ⟨by decide +kernel, hnearest, ?_, ?_⟩,
    ⟨by decide +kernel, hnone'.mpr (.inl (by decide +kernel)), hzero (by decide +kernel)⟩,
    ⟨by decide +kernel, hnone''.mpr (.inr (.inl (by decide +kernel))), ?_⟩,
    ⟨hplace, (hplaces _).2 hplace _ (List.mem_cons_self ..)⟩,
    ⟨hdisplace, (hdisplaces _).2 hdisplace _ (List.mem_cons_self ..)⟩,
    hmeasure, (hmeasures _).2 hmeasure _ (List.mem_cons_self ..)⟩
  · exact hnone.mpr (.inr (.inr ⟨by decide +kernel, _, hnearest, by decide⟩))
  · exact (hends (by decide +kernel) _ hnearest).trans (by decide)
  · exact (hlow (by decide +kernel)).trans (if_pos (by decide +kernel))

end Binary64

end PenPlotter
