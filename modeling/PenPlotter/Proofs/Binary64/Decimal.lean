import PenPlotter.Proofs.Binary64.Units

/-!
# Doubles from decimal numbers

A decimal number is read by multiplying with a power of ten, or by dividing by one, and rounding
once.  Where the division comes out even, all that counts is the number that is rounded.  So a zero
behind the point makes no difference (`ofScientific_mul_ten`), and a double that is written with all
its digits reads back as it (`ofScientific_shiftLeft` and `ofScientific_mul_five_pow`).
-/

namespace PenPlotter.Binary64

open Float.Model Float.Model.UnpackedFloat

/-! ## 1. Doubles that are the same -/

/-- A double is known from its bit pattern. -/
theorem eq_of_toBits_eq {x y : Float} (h : x.toBits = y.toBits) : x = y := by
  obtain ⟨⟨bits, valid⟩⟩ := x
  obtain ⟨⟨bits', valid'⟩⟩ := y
  obtain rfl : bits = bits' := h
  rfl

/-- A double is known from what it unpacks to. -/
theorem eq_of_unpack_eq {x y : Float} (h : x.toModel.unpack = y.toModel.unpack) : x = y := by
  refine eq_of_toBits_eq (UInt64.toNat_inj.mp ?_)
  change x.toModel.toBits.toNat = y.toModel.toBits.toNat
  rw [toNat_toBits, toNat_toBits, h]

/-- A double is known from its rank. -/
theorem eq_of_rank_eq {x y : Float} (h : rank x = rank y) : x = y := by
  have hx := x.toBits.toNat_lt
  have hy := y.toBits.toNat_lt
  refine eq_of_toBits_eq (UInt64.toNat_inj.mp ?_)
  simp only [rank] at h
  split at h
  · split at h <;> omega
  · split at h <;> omega

/-- A normal mantissa and its exponent are known from the size. -/
theorem IsNormal.eq_of_size_eq {m n : Nat} {e f : Int} (hm : IsNormal m e) (hn : IsNormal n f)
    (h : size m e = size n f) : m = n ∧ e = f := by
  have hless : ¬ (e < f ∨ e = f ∧ m < n) := fun hlt =>
    Nat.lt_irrefl _ (h ▸ (hm.size_lt_iff hn).mpr hlt)
  have hmore : ¬ (f < e ∨ f = e ∧ n < m) := fun hlt =>
    Nat.lt_irrefl _ (h ▸ (hn.size_lt_iff hm).mpr hlt)
  omega

/-- A positive double is known from its units. -/
theorem eq_of_units_pos {x y : Float} {a : Int} (hx : units? x = some a) (hy : units? y = some a)
    (ha : 0 < a) : x = y := by
  obtain ⟨m, e, hm, hu, hnormal, -, hsize⟩ := unpack_of_units_pos hx ha
  obtain ⟨n, f, hn, hv, hnormal', -, hsize'⟩ := unpack_of_units_pos hy ha
  obtain ⟨hmn, hef⟩ := hnormal.eq_of_size_eq hnormal' (Int.ofNat_inj.mp (hsize ▸ hsize'))
  exact eq_of_unpack_eq (hu.trans ((finite_eq_finite hm hn hmn hef).trans hv.symm))

/-- A double that equals a finite one, other than zero, is the same. -/
theorem eq_of_beq_finite {x y : Float} {m : Nat} {e : Int} {hm : 0 < m}
    (hy : y.toModel.unpack = .finite .positive m e hm) (h : (x == y) = true) : x = y := by
  have hbeq : x.toModel.unpack.beq y.toModel.unpack = true := h
  refine eq_of_unpack_eq ?_
  rw [hy] at hbeq ⊢
  cases hx : x.toModel.unpack with
  | notANumber => rw [hx] at hbeq; cases hbeq
  | infinity s => rw [hx] at hbeq; cases s <;> cases hbeq
  | zero s => rw [hx] at hbeq; cases hbeq
  | finite s n f hn =>
    rw [hx] at hbeq
    cases s with
    | negative => cases hbeq
    | positive =>
      have hcompare : (some ((compare f e).then (compare n m)) == some .eq) = true := hbeq
      rw [beq_iff_eq, Option.some.injEq, Ordering.then_eq_eq, Std.compare_eq_iff_eq,
        Std.compare_eq_iff_eq] at hcompare
      exact finite_eq_finite hn hm hcompare.2 hcompare.1

theorem unpack_abs (x : Float) : x.abs.toModel.unpack = x.toModel.unpack.abs := by
  refine unpack_pack ?_
  have hcanonical := isCanonical_unpack x.toModel
  cases hx : x.toModel.unpack with
  | notANumber | infinity | zero => trivial
  | finite s m e hm =>
    rw [hx] at hcanonical
    exact hcanonical

theorem unpack_neg (x : Float) : (-x).toModel.unpack = x.toModel.unpack.neg := by
  refine unpack_pack ?_
  have hcanonical := isCanonical_unpack x.toModel
  cases hx : x.toModel.unpack with
  | notANumber | infinity | zero => trivial
  | finite s m e hm =>
    rw [hx] at hcanonical
    exact hcanonical

/-! ## 2. Decimal numbers -/

/-- A whole number, brought to any exponent that leaves 53 digits, is rounded to its nearest
size. -/
theorem round_whole (s : Sign) {n j : Nat} (hn : 0 < n) (hj : 52 ≤ n.log2 + j) (hj' : j ≤ 1074) :
    ∃ m e hm, roundWithAccuracy .binary64 s (n <<< j) (-(j : Int)) .exact = .finite s m e hm ∧
      IsNormal m e ∧ size m e = nearest (n * 2 ^ 1074) := by
  have hsize : size (n <<< j) (-(j : Int)) = n * 2 ^ 1074 := by
    rw [size, Nat.shiftLeft_eq, Nat.mul_assoc, ← Nat.pow_add]
    congr 2
    omega
  have hpos : 0 < n <<< j := by
    rw [Nat.shiftLeft_eq]
    exact Nat.mul_pos hn (Nat.two_pow_pos j)
  rw [← hsize]
  refine roundWithAccuracy_spec s hpos (by omega) ?_
  rw [hsize, excess, log2_mul_two_pow hn]
  omega

/-- A number with no negative power of ten is multiplied out before it is rounded. -/
theorem ofScientific_ofNat {n k : Nat} (hn : 0 < n) (hk : k ≤ 2 ^ 11) :
    UnpackedFloat.ofScientific .binary64 n k =
      roundWithAccuracy .binary64 .positive ((n * 10 ^ k) <<< 53) (-(53 : Nat)) .exact := by
  have hlarge : ¬ (k : Int) > 2 ^ Format.binary64.exponentBits := by
    change ¬ (k : Int) > 2 ^ 11
    omega
  have hsmall : ¬ (k : Int) < -((2 ^ Format.binary64.exponentBits : Int) + n.log2) := by
    change ¬ (k : Int) < -((2 ^ 11 : Int) + n.log2)
    omega
  rw [UnpackedFloat.ofScientific, dif_neg (Nat.pos_iff_ne_zero.mp hn), if_neg hlarge,
    if_neg hsmall, if_pos (Int.natCast_nonneg k)]
  have hproduct : (n * 10 ^ k) <<< 53 = n <<< 53 * 10 ^ k := by
    rw [Nat.shiftLeft_eq, Nat.shiftLeft_eq, Nat.mul_right_comm]
  rw [hproduct]
  rfl

/-- The exponent that a quotient of whole numbers is computed with. -/
def quotientExponent (n d : Nat) : Int :=
  min 0 (Format.binary64.targetExponent (totalExponent n 0 - totalExponent d 0))

/-- A number with a negative power of ten is divided, and then rounded. -/
theorem ofScientific_neg {n k : Nat} (hn : 0 < n) (hk : 0 < k) (hk' : k ≤ 2 ^ 11 + n.log2) :
    UnpackedFloat.ofScientific .binary64 n (-(k : Int)) =
      roundWithAccuracy .binary64 .positive
        (n <<< (-quotientExponent n (10 ^ k)).toNat / 10 ^ k) (quotientExponent n (10 ^ k))
        (accuracyOfFraction (n <<< (-quotientExponent n (10 ^ k)).toNat % 10 ^ k) (10 ^ k)) := by
  have hlarge : ¬ -(k : Int) > 2 ^ Format.binary64.exponentBits := by
    change ¬ -(k : Int) > 2 ^ 11
    omega
  have hsmall : ¬ -(k : Int) < -((2 ^ Format.binary64.exponentBits : Int) + n.log2) := by
    change ¬ -(k : Int) < -((2 ^ 11 : Int) + n.log2)
    omega
  rw [UnpackedFloat.ofScientific, dif_neg (Nat.pos_iff_ne_zero.mp hn), if_neg hlarge,
    if_neg hsmall, if_neg (by omega)]
  -- The power is replaced as a whole, since the proof that it is positive depends on it.
  have hdiv {d : Nat} (hd : 0 < d) (hpower : d = 10 ^ k) :
      UnpackedFloat.div .binary64 (.finite .positive n 0 hn) (.finite .positive d 0 hd) =
        roundWithAccuracy .binary64 .positive
          (n <<< ((0 : Int) - 0 - quotientExponent n (10 ^ k)).toNat / 10 ^ k)
          (quotientExponent n (10 ^ k))
          (accuracyOfFraction (n <<< ((0 : Int) - 0 - quotientExponent n (10 ^ k)).toNat % 10 ^ k)
            (10 ^ k)) := by
    subst hpower
    rfl
  have hshift : ((0 : Int) - 0 - quotientExponent n (10 ^ k)).toNat =
      (-quotientExponent n (10 ^ k)).toNat := by omega
  rw [← hshift]
  exact hdiv _ (congrArg (10 ^ ·) (by omega))

/-- A quotient that comes out even is rounded as it is. -/
theorem ofScientific_neg_of_eq_mul {n k q : Nat} (hn : 0 < n) (hk : 0 < k)
    (hk' : k ≤ 2 ^ 11 + n.log2)
    (hq : n <<< (-quotientExponent n (10 ^ k)).toNat = q * 10 ^ k) :
    UnpackedFloat.ofScientific .binary64 n (-(k : Int)) =
      roundWithAccuracy .binary64 .positive q (quotientExponent n (10 ^ k)) .exact := by
  rw [ofScientific_neg hn hk hk', hq, Nat.mul_mod_left,
    Nat.mul_div_cancel _ (Nat.pow_pos (by decide))]
  rfl

theorem quotientExponent_eq (n d : Nat) :
    quotientExponent n d = min 0 (max ((n.log2 : Int) - d.log2 - 53) (-1074)) := by
  rw [quotientExponent, targetExponent_binary64, totalExponent, totalExponent]
  omega

/-- **A zero behind the point makes no difference.** -/
theorem ofScientific_mul_ten {n k : Nat} (hn : 0 < n) (hk : k ≤ 2 ^ 11) :
    UnpackedFloat.ofScientific .binary64 (n * 10 ^ k * 10) (-1) =
      UnpackedFloat.ofScientific .binary64 n k := by
  have hpos : 0 < n * 10 ^ k := Nat.mul_pos hn (Nat.pow_pos (by decide))
  generalize hN : n * 10 ^ k = N at hpos
  obtain ⟨j, hj⟩ : ∃ j, j = (-quotientExponent (N * 10) (10 ^ 1)).toNat := ⟨_, rfl⟩
  have hlow : N.log2 + 3 ≤ (N * 10).log2 := by
    rw [Nat.le_log2 (by omega), Nat.pow_add]
    have := Nat.log2_self_le (Nat.pos_iff_ne_zero.mp hpos)
    omega
  have hhigh : (N * 10).log2 < N.log2 + 5 := by
    rw [Nat.log2_lt (by omega), Nat.pow_add]
    have : N < 2 ^ (N.log2 + 1) := Nat.lt_log2_self
    rw [Nat.pow_succ] at this
    omega
  have hten : (10 ^ 1 : Nat).log2 = 3 := by decide
  have hexponent := quotientExponent_eq (N * 10) (10 ^ 1)
  rw [hten] at hexponent
  have heven : (N * 10) <<< (-quotientExponent (N * 10) (10 ^ 1)).toNat = N <<< j * 10 ^ 1 := by
    rw [← hj, Nat.shiftLeft_eq, Nat.shiftLeft_eq, Nat.pow_one, Nat.mul_right_comm]
  have hquotient := ofScientific_neg_of_eq_mul (n := N * 10) (k := 1) (by omega) (by decide)
    (by omega) heven
  have hexponent' : quotientExponent (N * 10) (10 ^ 1) = -(j : Int) := by omega
  rw [hexponent'] at hquotient
  obtain ⟨m, e, hm, hround, hnormal, hsize⟩ :=
    round_whole .positive (n := N) (j := j) hpos (by omega) (by omega)
  obtain ⟨m', e', hm', hround', hnormal', hsize'⟩ :=
    round_whole .positive (n := N) (j := 53) hpos (by omega) (by omega)
  obtain ⟨hmantissa, hexponent⟩ := hnormal.eq_of_size_eq hnormal' (hsize.trans hsize'.symm)
  rw [ofScientific_ofNat hn hk, hN, hround', ← finite_eq_finite hm hm' hmantissa hexponent,
    ← hround]
  exact hquotient

/-- All digits of a double that is a whole number read back as it. -/
theorem ofScientific_shiftLeft {m k : Nat} (hm : 0 < m) (hnormal : IsNormal m k) :
    UnpackedFloat.ofScientific .binary64 (m <<< k) (0 : Nat) = .finite .positive m k hm := by
  have hpos : 0 < m <<< k := by
    rw [Nat.shiftLeft_eq]
    exact Nat.mul_pos hm (Nat.two_pow_pos k)
  have hsize : m <<< k * 2 ^ 1074 = size m k := by
    rw [size, Nat.shiftLeft_eq, Nat.mul_assoc, ← Nat.pow_add]
    congr 2
  obtain ⟨m', e', hm', hround, hnormal', hsize'⟩ :=
    round_whole .positive (n := m <<< k) (j := 53) hpos (by omega) (by omega)
  rw [hsize, nearest_of_representable hnormal.representable] at hsize'
  obtain ⟨rfl, rfl⟩ := hnormal'.eq_of_size_eq hnormal hsize'
  rw [ofScientific_ofNat hpos (Nat.zero_le _), Nat.pow_zero, Nat.mul_one]
  exact hround

/-- All digits of a double that is no whole number read back as it. -/
theorem ofScientific_mul_five_pow {m k : Nat} (hm : 0 < m) (hk : 0 < k)
    (hnormal : IsNormal m (-(k : Int))) :
    UnpackedFloat.ofScientific .binary64 (m * 5 ^ k) (-(k : Int)) =
      .finite .positive m (-(k : Int)) hm := by
  have hfive : 0 < 5 ^ k := Nat.pow_pos (by decide)
  have hpos : 0 < m * 5 ^ k := Nat.mul_pos hm hfive
  have hten : 10 ^ k = 5 ^ k * 2 ^ k := by rw [← Nat.mul_pow]
  have hk' : k ≤ 1074 := by
    obtain ⟨-, hlow, -⟩ := hnormal
    omega
  -- The divisor has `k` binary digits more than the power of five, and the mantissa 53 at most.
  have hlog : (m * 5 ^ k).log2 < (5 ^ k).log2 + 54 := by
    rw [Nat.log2_lt (Nat.pos_iff_ne_zero.mp hpos)]
    have hpow : 2 ^ ((5 ^ k).log2 + 54) = 2 ^ 53 * 2 ^ ((5 ^ k).log2 + 1) := by
      rw [← Nat.pow_add, Nat.add_comm 53]
    rw [hpow]
    exact Nat.mul_lt_mul'' hnormal.1 Nat.lt_log2_self
  have hexponent := quotientExponent_eq (m * 5 ^ k) (10 ^ k)
  rw [hten, log2_mul_two_pow hfive, ← hten] at hexponent
  obtain ⟨j, hj⟩ : ∃ j, j = (-quotientExponent (m * 5 ^ k) (10 ^ k)).toNat := ⟨_, rfl⟩
  have hexponent' : quotientExponent (m * 5 ^ k) (10 ^ k) = -(j : Int) := by omega
  have heven : (m * 5 ^ k) <<< (-quotientExponent (m * 5 ^ k) (10 ^ k)).toNat =
      m <<< (j - k) * 10 ^ k := by
    have hsplit : 2 ^ j = 2 ^ (j - k) * 2 ^ k := by rw [← Nat.pow_add]; congr 1; omega
    rw [← hj, hten, Nat.shiftLeft_eq, Nat.shiftLeft_eq, hsplit, Nat.mul_mul_mul_comm]
  have hquotient := ofScientific_neg_of_eq_mul hpos hk (by omega) heven
  have hsize : size (m <<< (j - k)) (-(j : Int)) = size m (-(k : Int)) := by
    rw [size, size, Nat.shiftLeft_eq, Nat.mul_assoc, ← Nat.pow_add]
    congr 2
    omega
  have hexcess : excess (size m (-(k : Int))) = (-(k : Int) + 1074).toNat := by
    rw [size, excess_mul hnormal.1 (hnormal.2.2.imp_right (by omega))]
  have hpos' : 0 < m <<< (j - k) := by
    rw [Nat.shiftLeft_eq]
    exact Nat.mul_pos hm (Nat.two_pow_pos _)
  obtain ⟨m', e', hm', hround, hnormal', hsize'⟩ :=
    roundWithAccuracy_spec .positive (m := m <<< (j - k)) (e := -(j : Int)) hpos' (by omega)
      (by rw [hsize, hexcess]; omega)
  rw [hsize, nearest_of_representable hnormal.representable] at hsize'
  obtain ⟨hmantissa, hexponent⟩ := hnormal'.eq_of_size_eq hnormal hsize'
  rw [hquotient, hexponent', hround]
  exact finite_eq_finite hm' hm hmantissa hexponent

end PenPlotter.Binary64
