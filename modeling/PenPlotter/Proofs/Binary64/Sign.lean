import PenPlotter.Proofs.Binary64.Units

/-!
# The signs of doubles

Products and quotients of doubles are rounded, and rounding may make them zero or infinite, but it
changes no sign.  So the sign of a quotient or a product can be told from those of its parts,
whatever it is rounded to (`HasSign.div` and `HasSign.mul`).  A zero counts as having either sign,
and so does what is not a number.

A double that has a sign rounds to a whole number that is not on the other side of zero
(`HasSign.of_whole`).
-/

namespace PenPlotter.Binary64

open Float.Model Float.Model.UnpackedFloat

/-- Whether an unpacked double has the given sign. -/
def UnpackedHasSign (s : Sign) : UnpackedFloat → Prop
  | .finite t _ _ _ => t = s
  | .infinity t => t = s
  | .zero _ | .notANumber => True

/-- Whether a double has the given sign.  A zero and what is not a number have both. -/
def HasSign (s : Sign) (x : Float) : Prop :=
  UnpackedHasSign s x.toModel.unpack

/-! ## 1. Packing and rounding -/

theorem hasSign_assemble (s : Sign) (e : BitVec 11) (m : BitVec 52) :
    UnpackedHasSign s (assemble s e m) := by
  rw [assemble]
  by_cases hones : e = -1#11
  · rw [if_pos hones]
    by_cases hm : m = 0#52
    · rw [if_pos hm]
      rfl
    · rw [if_neg hm]
      trivial
  · rw [if_neg hones]
    by_cases hzero : e = 0#11
    · rw [if_pos hzero]
      by_cases hm : m = 0#52
      · rw [dif_pos hm]
        trivial
      · rw [dif_neg hm]
        rfl
    · rw [if_neg hzero]
      rfl

/-- Packing keeps the sign, of a double that is too large to be packed too. -/
theorem hasSign_pack {s : Sign} {u : UnpackedFloat} (hu : UnpackedHasSign s u) :
    HasSign s (.ofModel (.pack u)) := by
  change UnpackedHasSign s (UnpackedFloat.unpack .binary64 (UnpackedFloat.pack .binary64 u))
  cases u with
  | zero t =>
    change UnpackedHasSign s (Float.Model.pack (.zero t)).unpack
    rw [unpack_pack (u := .zero t) trivial]
    trivial
  | infinity t =>
    change UnpackedHasSign s (Float.Model.pack (.infinity t)).unpack
    rw [unpack_pack (u := .infinity t) trivial]
    exact hu
  | notANumber =>
    change UnpackedHasSign s (Float.Model.pack .notANumber).unpack
    rw [unpack_pack (u := .notANumber) trivial]
    trivial
  | finite t m e hm =>
    obtain rfl : t = s := hu
    have hcomponents (f : BitVec 11) (n : BitVec 52) :
        UnpackedHasSign t (UnpackedFloat.unpack .binary64 (packComponents .binary64 t f n)) := by
      rw [unpack_packComponents]
      exact hasSign_assemble t f n
    rw [pack_finite]
    by_cases hlarge : 2 ^ 11 ≤ (e + (1023 : Nat) + (52 : Nat)).toNat + 1
    · rw [if_pos hlarge]
      exact hcomponents _ _
    · rw [if_neg hlarge]
      by_cases hfull : m.log2 + 1 = 53
      · rw [if_pos hfull]
        exact hcomponents _ _
      · rw [if_neg hfull]
        exact hcomponents _ _

theorem hasSign_ofShifted (s : Sign) (shifted : ExtendedMantissa × Int) :
    UnpackedHasSign s (ofShifted s shifted) := by
  rw [ofShifted]
  by_cases h : shifted.1.mantissa = 0
  · rw [dif_pos h]
    trivial
  · rw [dif_neg h]
    rfl

theorem hasSign_roundWithAccuracy (s : Sign) (m : Nat) (e : Int) (accuracy : Accuracy) :
    UnpackedHasSign s (roundWithAccuracy .binary64 s m e accuracy) := by
  rw [roundWithAccuracy_eq_ofShifted]
  exact hasSign_ofShifted s _

/-! ## 2. Quotients and products -/

section

variable {s t : Sign} {x y : Float} {m : Nat} {e : Int} {hm : 0 < m}

/-- **The sign of a quotient is the quotient of the signs.** -/
theorem HasSign.div (hx : HasSign s x) (hy : y.toModel.unpack = .finite t m e hm) :
    HasSign (s / t) (x / y) := by
  refine hasSign_pack (u := UnpackedFloat.div .binary64 x.toModel.unpack y.toModel.unpack) ?_
  rw [hy]
  unfold HasSign at hx
  cases hu : x.toModel.unpack with
  | zero | notANumber => trivial
  | infinity s' =>
    rw [hu] at hx
    exact congrArg (· / t) hx
  | finite s' n f hn =>
    rw [hu] at hx
    obtain rfl : s' = s := hx
    exact hasSign_roundWithAccuracy _ _ _ _

/-- **The sign of a product is the product of the signs.** -/
theorem HasSign.mul (hx : HasSign s x) (hy : y.toModel.unpack = .finite t m e hm) :
    HasSign (s * t) (x * y) := by
  refine hasSign_pack (u := UnpackedFloat.mul .binary64 x.toModel.unpack y.toModel.unpack) ?_
  rw [hy]
  unfold HasSign at hx
  cases hu : x.toModel.unpack with
  | zero | notANumber => trivial
  | infinity s' =>
    rw [hu] at hx
    exact congrArg (· * t) hx
  | finite s' n f hn =>
    rw [hu] at hx
    obtain rfl : s' = s := hx
    exact hasSign_roundWithAccuracy _ _ _ _

/-- What is not a number is not finite. -/
theorem not_finite_of_isNaN {x : Float} (h : x.isNaN = true) : x.isFinite = false := by
  have hnan : x.toModel.unpack.isNaN = true := h
  change x.toModel.unpack.isFinite = false
  cases hu : x.toModel.unpack with
  | notANumber => rfl
  | zero | infinity | finite => rw [hu] at hnan; cases hnan

/-- What is infinite is not finite. -/
theorem not_finite_of_isInf {x : Float} (h : x.isInf = true) : x.isFinite = false := by
  have hinf : x.toModel.unpack.isInf = true := h
  change x.toModel.unpack.isFinite = false
  cases hu : x.toModel.unpack with
  | infinity => rfl
  | zero | notANumber | finite => rw [hu] at hinf; cases hinf

/-- A quotient by what is not finite is a zero or not a number, and has either sign. -/
theorem hasSign_div_of_not_finite (s : Sign) (x : Float) {y : Float}
    (hy : y.isFinite = false) : HasSign s (x / y) := by
  have hunpack : y.toModel.unpack.isFinite = false := hy
  refine hasSign_pack (u := UnpackedFloat.div .binary64 x.toModel.unpack y.toModel.unpack) ?_
  cases hv : y.toModel.unpack with
  | zero t | finite t m e hm =>
    rw [hv] at hunpack
    cases hunpack
  | infinity t | notANumber => cases x.toModel.unpack <;> trivial

end

/-! ## 3. Comparing with zero -/

/-- What has not the positive sign is the negative infinity, or finite and negative. -/
theorem hasSign_or_negative (x : Float) :
    HasSign .positive x ∨ x.toModel.unpack = .infinity .negative ∨
      ∃ m e hm, x.toModel.unpack = .finite .negative m e hm := by
  unfold HasSign
  cases x.toModel.unpack with
  | zero | notANumber => exact .inl trivial
  | infinity s =>
    cases s with
    | positive => exact .inl rfl
    | negative => exact .inr (.inl rfl)
  | finite s m e hm =>
    cases s with
    | positive => exact .inl rfl
    | negative => exact .inr (.inr ⟨m, e, hm, rfl⟩)

/-- What is at least zero has the positive sign. -/
theorem hasSign_of_zero_le {x : Float} (h : ofInt 0 ≤ x) : HasSign .positive x := by
  have hle : (ofInt 0).toModel.unpack.le x.toModel.unpack = true := of_decide_eq_true h
  rw [unpack_zero] at hle
  rcases hasSign_or_negative x with hx | hx | ⟨m, e, hm, hx⟩
  · exact hx
  · rw [hx] at hle
    cases hle
  · rw [hx] at hle
    cases hle

/-- What is not below zero has the positive sign, what is not a number included. -/
theorem hasSign_of_not_lt_zero {x : Float} (h : ¬ x < ofInt 0) : HasSign .positive x := by
  rw [lt_iff_unpack, unpack_zero] at h
  rcases hasSign_or_negative x with hx | hx | ⟨m, e, hm, hx⟩
  · exact hx
  · rw [hx] at h
    exact absurd rfl h
  · rw [hx] at h
    exact absurd rfl h

/-- A finite double that does not equal zero has a sign, a mantissa and an exponent. -/
theorem exists_finite_of_ne_zero {x : Float} (hfinite : x.isFinite = true)
    (hzero : (x == ofInt 0) = false) : ∃ s m e hm, x.toModel.unpack = .finite s m e hm := by
  have hunpack : x.toModel.unpack.isFinite = true := hfinite
  have hbeq : x.toModel.unpack.beq (ofInt 0).toModel.unpack = false := hzero
  rw [unpack_zero] at hbeq
  cases hu : x.toModel.unpack with
  | zero s =>
    rw [hu] at hbeq
    cases hbeq
  | finite s m e hm => exact ⟨s, m, e, hm, rfl⟩
  | infinity s => rw [hu] at hunpack; cases hunpack
  | notANumber => rw [hu] at hunpack; cases hunpack

/-- On which side of zero it is, its sign says. -/
theorem lt_zero_iff_of_finite {x : Float} {s : Sign} {m : Nat} {e : Int} {hm : 0 < m}
    (hx : x.toModel.unpack = .finite s m e hm) :
    (ofInt 0 < x ↔ s = .positive) ∧ (x < ofInt 0 ↔ s = .negative) := by
  rw [lt_iff_unpack, lt_iff_unpack, unpack_zero, hx]
  cases s with
  | positive => exact ⟨⟨fun _ => rfl, fun _ => rfl⟩, ⟨nofun, nofun⟩⟩
  | negative => exact ⟨⟨nofun, nofun⟩, ⟨fun _ => rfl, fun _ => rfl⟩⟩

/-- **What has the positive sign, divided by what is below zero, has the negative one.** -/
theorem HasSign.div_of_lt_zero {x y : Float} (hx : HasSign .positive x) (hy : y < ofInt 0) :
    HasSign .negative (x / y) := by
  cases hv : y.toModel.unpack with
  | zero t =>
    rw [lt_iff_unpack, hv, unpack_zero] at hy
    cases hy
  | finite t m e hm =>
    obtain rfl : t = .negative := (lt_zero_iff_of_finite hv).2.mp hy
    exact hx.div hv
  | infinity t | notANumber =>
    refine hasSign_div_of_not_finite .negative x ?_
    change y.toModel.unpack.isFinite = false
    rw [hv]
    rfl

/-- A double that is no negative number of units has the positive sign. -/
theorem hasSign_of_units {x : Float} {a : Int} (hx : units? x = some a) (ha : 0 ≤ a) :
    HasSign .positive x := by
  unfold HasSign
  rcases unpack_of_units hx with ⟨s, hu, -⟩ | ⟨s, m, e, hm, hu, -, -, rfl⟩
  · rw [hu]
    trivial
  · rw [hu]
    cases s with
    | positive => rfl
    | negative =>
      have hsize := size_pos hm e
      simp only [Sign.apply] at ha
      omega

/-! ## 4. Rounding to whole numbers -/

/-- **What a double is rounded to is on the side of zero that its sign says.** -/
theorem HasSign.of_whole {s : Sign} {x : Float} {n : Int} (hx : HasSign s x)
    (hwhole : whole x = .number n) : 0 ≤ s.apply n := by
  unfold HasSign at hx
  unfold whole at hwhole
  cases hu : x.toModel.unpack with
  | zero t =>
    rw [hu] at hwhole
    cases hwhole
    cases s <;> exact Int.le_refl 0
  | finite t m e hm =>
    rw [hu] at hx hwhole
    obtain rfl : t = s := hx
    cases t with
    | positive =>
      cases hwhole
      exact Int.natCast_nonneg _
    | negative =>
      cases hwhole
      rw [Sign.apply, Int.neg_neg]
      exact Int.natCast_nonneg _
  | infinity t => rw [hu] at hwhole; cases hwhole
  | notANumber => rw [hu] at hwhole; cases hwhole

/-- A double of positive sign is not rounded to the negative infinity. -/
theorem HasSign.whole_ne_infinite {x : Float} (hx : HasSign .positive x) :
    whole x ≠ .infinite true := by
  intro hwhole
  unfold HasSign at hx
  unfold whole at hwhole
  cases hu : x.toModel.unpack with
  | infinity t =>
    rw [hu] at hx hwhole
    obtain rfl : t = .positive := hx
    cases hwhole
  | finite t m e hm => rw [hu] at hwhole; cases t <;> cases hwhole
  | zero t => rw [hu] at hwhole; cases hwhole
  | notANumber => rw [hu] at hwhole; cases hwhole

/-- A count of passes that has the negative sign is zero. -/
theorem HasSign.ceiling_eq_zero {x : Float} (hx : HasSign .negative x) : ceiling x = 0 := by
  unfold HasSign at hx
  unfold ceiling
  cases hu : x.toModel.unpack with
  | zero t | notANumber => rfl
  | infinity t | finite t m e hm =>
    rw [hu] at hx
    obtain rfl : t = .negative := hx
    rfl

end PenPlotter.Binary64
