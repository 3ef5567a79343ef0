import PenPlotter.Proofs.Binary64.Nearest
import PenPlotter.Proofs.Binary64.Packing

/-!
# The rounding of doubles is to the nearest size

Sums, differences and whole numbers are rounded by shifting the mantissa until it has 53 binary
digits, and keeping two bits of what falls out: the last digit, and whether there was another one
before it.  The two bits are enough to round to even (`roundedMantissa_shift`), so that the result
has the size that `nearest` says (`round_spec`).
-/

namespace PenPlotter.Binary64

open Float.Model Float.Model.UnpackedFloat

/-! ## 1. Shifting -/

theorem shift_zero (em : ExtendedMantissa) : em >>> 0 = em := rfl

theorem shift_succ (em : ExtendedMantissa) (d : Nat) :
    em >>> (d + 1) = (em >>> d).shiftRightOne := rfl

/-- What is left of a mantissa, and the two bits that are kept of the rest. -/
theorem shift_spec (m d : Nat) :
    let shifted := (⟨m, false, false⟩ : ExtendedMantissa) >>> d
    shifted.mantissa = m / 2 ^ d ∧ (shifted.roundBit = true ↔ 2 ^ d ≤ 2 * (m % 2 ^ d)) ∧
      (shifted.stickyBit = true ↔ 2 * (m % 2 ^ d) % 2 ^ d ≠ 0) := by
  induction d with
  | zero => simp [shift_zero, Nat.mod_one]
  | succ d ih =>
    obtain ⟨hmantissa, hround, hsticky⟩ := ih
    have hpos := Nat.two_pow_pos d
    have hlt := Nat.mod_lt m hpos
    -- The rest has one more digit in front, which is the last one of the mantissa.
    have hrest : m % 2 ^ (d + 1) = m % 2 ^ d + 2 ^ d * (m / 2 ^ d % 2) := by
      rw [Nat.pow_succ, Nat.mod_mul]
    have hdouble : 2 * (m % 2 ^ (d + 1)) % 2 ^ (d + 1) = 2 * (m % 2 ^ d) := by
      rw [Nat.pow_succ, Nat.mul_comm (2 ^ d) 2, Nat.mul_mod_mul_left, Nat.mul_comm 2 (2 ^ d),
        ← Nat.pow_succ, hrest, Nat.add_mul_mod_self_left, Nat.mod_mod]
    refine ⟨?_, ?_, ?_⟩
    · rw [shift_succ, ExtendedMantissa.shiftRightOne, hmantissa, Nat.div_div_eq_div_mul,
        Nat.pow_succ]
    · simp only [shift_succ, ExtendedMantissa.shiftRightOne, hmantissa, bne_iff_ne, ne_eq]
      rw [hrest, Nat.pow_succ]
      rcases Nat.mod_two_eq_zero_or_one (m / 2 ^ d) with hzero | hone
      · rw [hzero]
        omega
      · rw [hone]
        omega
    · simp only [shift_succ, ExtendedMantissa.shiftRightOne, Bool.or_eq_true, hround, hsticky,
        hdouble]
      rcases Nat.lt_or_ge (2 * (m % 2 ^ d)) (2 ^ d) with hsmall | hlarge
      · rw [Nat.mod_eq_of_lt hsmall]
        omega
      · omega

/-- The two bits round to the nearest quotient. -/
theorem roundedMantissa_shift (m d : Nat) :
    ((⟨m, false, false⟩ : ExtendedMantissa) >>> d).roundedMantissa = halfEven m d := by
  obtain ⟨hmantissa, hround, hsticky⟩ := shift_spec m d
  have hlt := Nat.mod_lt m (Nat.two_pow_pos d)
  generalize (⟨m, false, false⟩ : ExtendedMantissa) >>> d = shifted at *
  obtain ⟨q, r, s⟩ := shifted
  simp only at hmantissa hround hsticky
  rw [hmantissa, halfEven]
  cases r with
  | false =>
    have hsmall : 2 * (m % 2 ^ d) < 2 ^ d := by simpa using hround
    rw [if_pos hsmall]
    cases s <;> rfl
  | true =>
    have hlarge : 2 ^ d ≤ 2 * (m % 2 ^ d) := hround.mp rfl
    have hmod : 2 * (m % 2 ^ d) % 2 ^ d = 2 * (m % 2 ^ d) - 2 ^ d := by
      rw [Nat.mod_eq_sub_mod hlarge, Nat.mod_eq_of_lt (by omega)]
    rw [if_neg (by omega)]
    cases s with
    | false =>
      have htie : ¬ 2 * (m % 2 ^ d) % 2 ^ d ≠ 0 := by simpa using hsticky
      rw [if_pos (by omega)]
      rfl
    | true =>
      have hmore : 2 * (m % 2 ^ d) % 2 ^ d ≠ 0 := hsticky.mp rfl
      rw [if_neg (by omega)]
      rfl

/-! ## 2. Exponents -/

theorem targetExponent_binary64 (t : Int) :
    Format.binary64.targetExponent t = max (t - 53) (-1074) := rfl

theorem log2_mul_two_pow {m : Nat} (hm : 0 < m) (k : Nat) : (m * 2 ^ k).log2 = m.log2 + k := by
  induction k with
  | zero => simp
  | succ k ih =>
    have hpos := Nat.mul_pos hm (Nat.two_pow_pos k)
    rw [Nat.pow_succ, ← Nat.mul_assoc, Nat.mul_comm _ 2, Nat.log2_two_mul (by omega), ih,
      Nat.add_assoc]

/-- The exponent that `m · 2 ^ e` is brought to. -/
theorem targetExponent_eq {m : Nat} {e : Int} (hm : 0 < m) (he : -1074 ≤ e) :
    Format.binary64.targetExponent (totalExponent m e) =
      (excess (size m e) : Int) - 1074 := by
  rw [targetExponent_binary64, totalExponent, excess, size, log2_mul_two_pow hm]
  omega

/-- A mantissa whose size has `d` digits too many is shifted by `d`. -/
theorem shiftToTargetExponent_eq {m d : Nat} {e : Int} (hm : 0 < m) (he : -1074 ≤ e)
    (hd : excess (size m e) = d + (e + 1074).toNat) :
    shiftToTargetExponent .binary64 m e .exact =
      ((⟨m, false, false⟩ : ExtendedMantissa) >>> d, e + d) := by
  have hamount : (Format.binary64.targetExponent (totalExponent m e) - e).toNat = d := by
    rw [targetExponent_eq hm he]
    omega
  simp only [shiftToTargetExponent, shiftToExponent, hamount]
  rfl

/-- Lowering an exponent keeps the size. -/
theorem decreaseExponent_spec {m : Nat} {e target : Int} (hm : 0 < m) (he : -1074 ≤ e)
    (htarget : -1074 ≤ target) :
    ∃ m' e', decreaseExponent m e target = (m', e') ∧ 0 < m' ∧ -1074 ≤ e' ∧ e' ≤ target ∧
      size m' e' = size m e := by
  refine ⟨m <<< (e - target).toNat, e - (e - target).toNat, rfl, ?_, by omega, by omega, ?_⟩
  · rw [Nat.shiftLeft_eq]
    exact Nat.mul_pos hm (Nat.two_pow_pos _)
  · rw [size, size, Nat.shiftLeft_eq, Nat.mul_assoc, ← Nat.pow_add]
    congr 2
    omega

/-! ## 3. Rounding -/

/-- A mantissa that has been rounded is shifted once more if it has become `2 ^ 53`. -/
theorem shift_rounded {q : Nat} {e : Int} (hpos : 0 < q) (hq : q ≤ 2 ^ 53) (he : -1074 ≤ e)
    (hnormal : 2 ^ 52 ≤ q ∨ e = -1074) :
    ∃ em e', shiftToTargetExponent .binary64 q e .exact = (em, e') ∧ 0 < em.mantissa ∧
      IsNormal em.mantissa e' ∧
      size em.mantissa e' = size q e := by
  rcases Nat.eq_or_lt_of_le hq with rfl | hlt
  · have hdouble : size (2 ^ 53) e = 2 ^ 52 * 2 ^ (1 + (e + 1074).toNat) := by
      rw [size, Nat.pow_add 2 1]
      omega
    have hexcess : excess (size (2 ^ 53) e) = 1 + (e + 1074).toNat := by
      rw [hdouble, excess_mul (by decide) (.inl (Nat.le_refl _))]
    refine ⟨_, _, shiftToTargetExponent_eq hpos he hexcess, Nat.two_pow_pos 52, ?_, ?_⟩
    · exact ⟨show 2 ^ 52 < 2 ^ 53 by decide, by omega, .inl (Nat.le_refl (2 ^ 52))⟩
    · rw [hdouble]
      change 2 ^ 52 * 2 ^ (e + 1 + 1074).toNat = _
      congr 2
      omega
  · have hexcess : excess (size q e) = 0 + (e + 1074).toNat := by
      rw [size, excess_mul hlt (hnormal.imp_right (by omega)), Nat.zero_add]
    rw [shiftToTargetExponent_eq hpos he hexcess, shift_zero]
    refine ⟨_, _, rfl, hpos, ⟨hlt, by omega, hnormal.imp_right (by omega)⟩, ?_⟩
    rw [size, size]
    congr 2
    omega

/-- The double of a mantissa and an exponent, of which what fell out is forgotten. -/
def ofShifted (s : Sign) (shifted : ExtendedMantissa × Int) : UnpackedFloat :=
  if h : shifted.1.mantissa = 0 then .zero s
  else .finite s shifted.1.mantissa shifted.2 (Nat.pos_of_ne_zero h)

/-- Rounding shifts twice, since the first shift may round up to one digit more. -/
theorem roundWithAccuracy_eq_ofShifted (s : Sign) (m : Nat) (e : Int) (accuracy : Accuracy) :
    roundWithAccuracy .binary64 s m e accuracy =
      ofShifted s (shiftToTargetExponent .binary64
        (shiftToTargetExponent .binary64 m e accuracy).1.roundedMantissa
        (shiftToTargetExponent .binary64 m e accuracy).2 .exact) := rfl

/-- Rounding, from its two shifts. -/
theorem roundWithAccuracy_eq (s : Sign) {m : Nat} {e e₁ e₂ : Int} {em₁ em₂ : ExtendedMantissa}
    (hfirst : shiftToTargetExponent .binary64 m e .exact = (em₁, e₁))
    (hsecond : shiftToTargetExponent .binary64 em₁.roundedMantissa e₁ .exact = (em₂, e₂))
    (hpos : 0 < em₂.mantissa) :
    roundWithAccuracy .binary64 s m e .exact = .finite s em₂.mantissa e₂ hpos := by
  rw [roundWithAccuracy_eq_ofShifted, hfirst, hsecond, ofShifted,
    dif_neg (Nat.pos_iff_ne_zero.mp hpos)]

/-- A mantissa whose size has at least 53 digits, or the smallest exponent, is rounded to the
nearest size. -/
theorem roundWithAccuracy_spec (s : Sign) {m : Nat} {e : Int} (hm : 0 < m) (he : -1074 ≤ e)
    (hexcess : (e + 1074).toNat ≤ excess (size m e)) :
    ∃ m' e' hm', roundWithAccuracy .binary64 s m e .exact = .finite s m' e' hm' ∧
      IsNormal m' e' ∧ size m' e' = nearest (size m e) := by
  obtain ⟨d, hd⟩ := Nat.exists_eq_add_of_le' hexcess
  have hq : halfEven (size m e) (excess (size m e)) =
      halfEven m d := by
    rw [hd, size, halfEven_mul_add]
  have hsize : size (halfEven m d) (e + d) = nearest (size m e) := by
    rw [nearest, hq, hd, size]
    congr 2
    omega
  have hpos : 0 < halfEven m d := by
    have hnearest := nearest_pos (size_pos hm e)
    rw [← hsize] at hnearest
    exact Nat.pos_of_mul_pos_right hnearest
  have hnormal : 2 ^ 52 ≤ halfEven m d ∨ e + d = -1074 := by
    by_cases hzero : excess (size m e) = 0
    · exact .inr (by omega)
    · exact .inl (hq ▸ le_halfEven_excess hzero)
  obtain ⟨em, e', hshift, hpos', hnormal', hsize'⟩ :=
    shift_rounded hpos (hq ▸ halfEven_excess_le _) (by omega) hnormal
  have hround := roundWithAccuracy_eq s (shiftToTargetExponent_eq hm he hd)
    (by rw [roundedMantissa_shift]; exact hshift) hpos'
  exact ⟨em.mantissa, e', hpos', hround, hnormal', hsize'.trans hsize⟩

/-- **Rounding gives the nearest size.** -/
theorem round_spec (s : Sign) {m : Nat} {e : Int} (hm : 0 < m) (he : -1074 ≤ e) :
    ∃ m' e' hm', round .binary64 s m e = .finite s m' e' hm' ∧ IsNormal m' e' ∧
      size m' e' = nearest (size m e) := by
  have htarget := targetExponent_eq hm he
  have hlow : -1074 ≤ Format.binary64.targetExponent (totalExponent m e) := by omega
  obtain ⟨m₁, e₁, hdecrease, hm₁, he₁, hle, hsize⟩ := decreaseExponent_spec hm he hlow
  obtain ⟨m', e', hm', hround, hnormal, hsize'⟩ :=
    roundWithAccuracy_spec s hm₁ he₁ (by rw [hsize]; omega)
  have hlowered : round .binary64 s m e =
      roundWithAccuracy .binary64 s
        (decreaseExponent m e (Format.binary64.targetExponent (totalExponent m e))).1
        (decreaseExponent m e (Format.binary64.targetExponent (totalExponent m e))).2 .exact := rfl
  refine ⟨m', e', hm', ?_, hnormal, hsize ▸ hsize'⟩
  rw [hlowered, hdecrease]
  exact hround

end PenPlotter.Binary64
