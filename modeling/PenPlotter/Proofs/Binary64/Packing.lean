import Mathlib.Algebra.Order.Ring.Int
import PenPlotter.Number.Binary64

/-!
# The bit patterns of doubles

A double is a bit pattern; unpacked, it is a sign, a mantissa and an exponent, or one of the
special cases.  An unpacked double is canonical if its mantissa and exponent are the ones that a bit
pattern has: 53 bits at most, and fewer only at the smallest exponent (`IsCanonical`).

A double is the plain sum of the fields that it unpacks to (`toNat_toBits`), and unpacking a
canonical double that was packed gives it back (`unpack_pack`).
-/

namespace PenPlotter.Binary64

open Float.Model Float.Model.UnpackedFloat

/-! ## 1. Canonical doubles -/

/-- A mantissa of 53 binary digits at most, and fewer only with the smallest exponent. -/
def IsNormal (m : Nat) (e : Int) : Prop :=
  m < 2 ^ 53 ∧ -1074 ≤ e ∧ (2 ^ 52 ≤ m ∨ e = -1074)

/-- The number `m · 2 ^ e` in units of the smallest positive double, which is `2 ^ -1074`. -/
def size (m : Nat) (e : Int) : Nat :=
  m * 2 ^ (e + 1074).toNat

theorem size_pos {m : Nat} (hm : 0 < m) (e : Int) : 0 < size m e :=
  Nat.mul_pos hm (Nat.two_pow_pos _)

/-- Whether an unpacked double is one that a bit pattern unpacks to. -/
def IsCanonical : UnpackedFloat → Prop
  | .finite _ m e _ => IsNormal m e ∧ e ≤ 971
  | _ => True

/-- The sign bit. -/
def signBit : Sign → Nat
  | .positive => 0
  | .negative => 2 ^ 63

/-- The bit pattern of a canonical double as a number. -/
def pattern : UnpackedFloat → Nat
  | .zero s => signBit s
  | .finite s m e _ => signBit s + ((e + 1074).toNat * 2 ^ 52 + m)
  | .infinity s => signBit s + 2047 * 2 ^ 52
  | .notANumber => 2047 * 2 ^ 52 + 2 ^ 51

/-! ## 2. The fields of a pattern -/

theorem toNat_packComponents (s : Sign) (e : BitVec 11) (m : BitVec 52) :
    (packComponents .binary64 s e m).toNat = signBit s + (e.toNat * 2 ^ 52 + m.toNat) := by
  have he := e.isLt
  have hm := m.isLt
  have happend : (s.toBitVec ++ e ++ m).toNat =
      (s.toBitVec.toNat * 2 ^ 11 + e.toNat) * 2 ^ 52 + m.toNat := by
    rw [BitVec.toNat_append, BitVec.toNat_append, ← Nat.shiftLeft_add_eq_or_of_lt he,
      ← Nat.shiftLeft_add_eq_or_of_lt hm, Nat.shiftLeft_eq, Nat.shiftLeft_eq]
  refine Eq.trans happend ?_
  cases s with
  | positive => simp [Sign.toBitVec, signBit]
  | negative =>
    simp only [Sign.toBitVec, signBit, BitVec.toNat_ofNat]
    omega

theorem toNat_unpackMantissa (b : BitVec 64) :
    (@unpackMantissa .binary64 b).toNat = b.toNat % 2 ^ 52 := by
  have hextract : (@unpackMantissa .binary64 b).toNat = (b.extractLsb 51 0).toNat := rfl
  rw [hextract, BitVec.extractLsb_toNat, Nat.shiftRight_zero]

theorem toNat_unpackExponent (b : BitVec 64) :
    (@unpackExponent .binary64 b).toNat = b.toNat / 2 ^ 52 % 2 ^ 11 := by
  have hextract : (@unpackExponent .binary64 b).toNat = (b.extractLsb 62 52).toNat := rfl
  rw [hextract, BitVec.extractLsb_toNat, Nat.shiftRight_eq_div_pow]

theorem toNat_unpackSign (b : BitVec 64) :
    (@unpackSign .binary64 b).toNat = b.toNat / 2 ^ 63 := by
  have hb := b.isLt
  have hextract : (@unpackSign .binary64 b).toNat = (b.extractLsb 63 63).toNat := rfl
  rw [hextract, BitVec.extractLsb_toNat, Nat.shiftRight_eq_div_pow]
  omega

theorem unpackSign_packComponents (s : Sign) (e : BitVec 11) (m : BitVec 52) :
    @unpackSign .binary64 (packComponents .binary64 s e m) = s.toBitVec := by
  have he := e.isLt
  have hm := m.isLt
  refine BitVec.eq_of_toNat_eq ?_
  rw [toNat_unpackSign, toNat_packComponents]
  cases s with
  | positive =>
    simp only [signBit, Sign.toBitVec, BitVec.toNat_ofNat]
    omega
  | negative =>
    simp only [signBit, Sign.toBitVec, BitVec.toNat_ofNat]
    omega

theorem signBit_ofBitVec (b : BitVec 1) : signBit (Sign.ofBitVec b) = b.toNat * 2 ^ 63 := by
  rcases BitVec.eq_zero_or_eq_one b with rfl | rfl <;> simp [Sign.ofBitVec, signBit]

theorem toNat_implicit_append (m : BitVec 52) : (1#1 ++ m).toNat = 2 ^ 52 + m.toNat := by
  rw [BitVec.toNat_append, ← Nat.shiftLeft_add_eq_or_of_lt m.isLt]
  simp [Nat.shiftLeft_eq]

/-! ## 3. Unpacking -/

/-- What a sign, an exponent field and a mantissa field unpack to. -/
def assemble (s : Sign) (e : BitVec 11) (m : BitVec 52) : UnpackedFloat :=
  if e = -1#11 then if m = 0#52 then .infinity s else .notANumber
  else if e = 0#11 then
    if h : m = 0#52 then .zero s
    else .finite s m.toNat ((e.toNat : Int) - ((1023 : Nat) + (52 : Nat)) + 1)
      (by simpa [BitVec.toNat_pos, BitVec.pos_iff_ne_zero])
  else .finite s (1#1 ++ m).toNat ((e.toNat : Int) - ((1023 : Nat) + (52 : Nat)))
    (by rw [toNat_implicit_append]; omega)

theorem unpack_eq_assemble (b : BitVec 64) :
    UnpackedFloat.unpack .binary64 b =
      assemble (Sign.ofBitVec (@unpackSign .binary64 b))
        (@unpackExponent .binary64 b) (@unpackMantissa .binary64 b) := rfl

theorem isCanonical_assemble (s : Sign) (e : BitVec 11) (m : BitVec 52) :
    IsCanonical (assemble s e m) := by
  have he := e.isLt
  have hm := m.isLt
  by_cases hones : e = -1#11
  · rw [assemble, if_pos hones]
    by_cases hm0 : m = 0#52
    · rw [if_pos hm0]
      trivial
    · rw [if_neg hm0]
      trivial
  · rw [assemble, if_neg hones]
    have hones' : e.toNat ≠ 2047 := by
      intro h
      exact hones (BitVec.eq_of_toNat_eq h)
    by_cases hzero : e = 0#11
    · rw [if_pos hzero]
      have hzero' : e.toNat = 0 := congrArg BitVec.toNat hzero
      by_cases hm0 : m = 0#52
      · rw [dif_pos hm0]
        trivial
      · rw [dif_neg hm0]
        change IsNormal m.toNat ((e.toNat : Int) - ((1023 : Nat) + (52 : Nat)) + 1) ∧
          (e.toNat : Int) - ((1023 : Nat) + (52 : Nat)) + 1 ≤ 971
        rw [IsNormal]
        omega
    · rw [if_neg hzero]
      have hzero' : e.toNat ≠ 0 := by
        intro h
        exact hzero (BitVec.eq_of_toNat_eq h)
      change IsNormal (1#1 ++ m).toNat ((e.toNat : Int) - ((1023 : Nat) + (52 : Nat))) ∧
        (e.toNat : Int) - ((1023 : Nat) + (52 : Nat)) ≤ 971
      rw [toNat_implicit_append, IsNormal]
      omega

/-- The pattern of what fields unpack to is their sum, unless they are those of no number. -/
theorem pattern_assemble (s : Sign) (e : BitVec 11) (m : BitVec 52)
    (hnumber : e = -1#11 → m = 0#52) :
    pattern (assemble s e m) = signBit s + (e.toNat * 2 ^ 52 + m.toNat) := by
  have he := e.isLt
  have hm := m.isLt
  by_cases hones : e = -1#11
  · rw [assemble, if_pos hones, if_pos (hnumber hones), hnumber hones, hones]
    rfl
  · rw [assemble, if_neg hones]
    by_cases hzero : e = 0#11
    · rw [if_pos hzero]
      have hzero' : e.toNat = 0 := congrArg BitVec.toNat hzero
      by_cases hm0 : m = 0#52
      · rw [dif_pos hm0, hzero, hm0]
        rfl
      · rw [dif_neg hm0]
        change signBit s + (((e.toNat : Int) - ((1023 : Nat) + (52 : Nat)) + 1 + 1074).toNat *
          2 ^ 52 + m.toNat) = _
        omega
    · rw [if_neg hzero]
      have hzero' : e.toNat ≠ 0 := by
        intro h
        exact hzero (BitVec.eq_of_toNat_eq h)
      change signBit s + (((e.toNat : Int) - ((1023 : Nat) + (52 : Nat)) + 1074).toNat * 2 ^ 52 +
        (1#1 ++ m).toNat) = _
      rw [toNat_implicit_append]
      omega

theorem isCanonical_unpack (x : Float.Model) : IsCanonical x.unpack :=
  isCanonical_assemble _ _ _

/-- A bit pattern is the pattern of what it unpacks to. -/
theorem toNat_toBits (x : Float.Model) : x.toBits.toNat = pattern x.unpack := by
  have hmantissa := toNat_unpackMantissa x.toBits.toBitVec
  have hexponent := toNat_unpackExponent x.toBits.toBitVec
  have hsign := (signBit_ofBitVec (@unpackSign .binary64 x.toBits.toBitVec)).trans
    (congrArg (· * 2 ^ 63) (toNat_unpackSign x.toBits.toBitVec))
  have hlt := x.toBits.toBitVec.isLt
  rw [Float.Model.unpack, unpack_eq_assemble]
  by_cases hnan : @unpackExponent .binary64 x.toBits.toBitVec = -1#11 ∧
      @unpackMantissa .binary64 x.toBits.toBitVec ≠ 0#52
  · have hbits := x.valid.eq_packedNaN hnan.1 hnan.2
    rw [assemble, if_pos hnan.1, if_neg hnan.2]
    exact congrArg BitVec.toNat hbits
  · have hnumber : @unpackExponent .binary64 x.toBits.toBitVec = -1#11 →
        @unpackMantissa .binary64 x.toBits.toBitVec = 0#52 := by
      intro hones
      exact Decidable.byContradiction fun hm => hnan ⟨hones, hm⟩
    rw [pattern_assemble _ _ _ hnumber, hmantissa, hexponent, hsign]
    change x.toBits.toBitVec.toNat = _
    omega

/-! ## 4. Unpacking what was packed -/

theorem unpack_packComponents (s : Sign) (e : BitVec 11) (m : BitVec 52) :
    UnpackedFloat.unpack .binary64 (packComponents .binary64 s e m) = assemble s e m := by
  have hsign : Sign.ofBitVec s.toBitVec = s := by cases s <;> rfl
  rw [unpack_eq_assemble, unpackSign_packComponents, hsign]
  exact congrArg₂ (assemble s) unpackExponent_packComponents unpackMantissa_packComponents

theorem finite_eq_finite {s : Sign} {m n : Nat} {e f : Int} (hm : 0 < m) (hn : 0 < n)
    (hmn : m = n) (hef : e = f) : UnpackedFloat.finite s m e hm = .finite s n f hn := by
  subst hmn hef
  rfl

theorem assemble_of_normal (s : Sign) {m : Nat} {e : Int} (hm : 0 < m) (hlow : -1074 ≤ e)
    (hhigh : e ≤ 971) (hm52 : 2 ^ 52 ≤ m) (hm53 : m < 2 ^ 53) :
    assemble s (BitVec.ofNat 11 ((e + 1074).toNat + 1)) (BitVec.ofNat 52 m) =
      .finite s m e hm := by
  have hexponent : (BitVec.ofNat 11 ((e + 1074).toNat + 1)).toNat = (e + 1074).toNat + 1 := by
    rw [BitVec.toNat_ofNat]
    omega
  have hones : BitVec.ofNat 11 ((e + 1074).toNat + 1) ≠ -1#11 := by
    intro h
    have hnat : (e + 1074).toNat + 1 = 2047 := hexponent.symm.trans (congrArg BitVec.toNat h)
    omega
  have hzero : BitVec.ofNat 11 ((e + 1074).toNat + 1) ≠ 0#11 := by
    intro h
    have hnat : (e + 1074).toNat + 1 = 0 := hexponent.symm.trans (congrArg BitVec.toNat h)
    omega
  rw [assemble, if_neg hones, if_neg hzero]
  refine finite_eq_finite _ _ ?_ ?_
  · rw [toNat_implicit_append, BitVec.toNat_ofNat]
    omega
  · rw [hexponent]
    omega

theorem assemble_of_subnormal (s : Sign) {m : Nat} (hm : 0 < m) (hm52 : m < 2 ^ 52) :
    assemble s 0#11 (BitVec.ofNat 52 m) = .finite s m (-1074) hm := by
  have hmantissa : (BitVec.ofNat 52 m).toNat = m := by
    rw [BitVec.toNat_ofNat, Nat.mod_eq_of_lt hm52]
  have hnonzero : BitVec.ofNat 52 m ≠ 0#52 := by
    intro h
    have hnat : m = 0 := hmantissa.symm.trans (congrArg BitVec.toNat h)
    omega
  rw [assemble, if_neg (by decide), if_pos rfl, dif_neg hnonzero]
  exact finite_eq_finite _ _ hmantissa rfl

/-- The bit pattern of a finite double: that of an infinity if the exponent does not fit its field,
and else the two fields.  Only a full mantissa has an exponent in its field. -/
theorem pack_finite (s : Sign) (m : Nat) (e : Int) (hm : 0 < m) :
    UnpackedFloat.pack .binary64 (.finite s m e hm) =
      if 2 ^ 11 ≤ (e + (1023 : Nat) + (52 : Nat)).toNat + 1 then packedInfinity .binary64 s
      else if m.log2 + 1 = 53 then
        packComponents .binary64 s (BitVec.ofNat 11 (e + (1023 : Nat) + (52 : Nat)).toNat)
          (BitVec.ofNat 52 m)
      else packComponents .binary64 s 0#11 (BitVec.ofNat 52 m) := rfl

/-- **Unpacking a canonical double that was packed gives it back.** -/
theorem unpack_pack {u : UnpackedFloat} (hu : IsCanonical u) :
    (Float.Model.pack u).unpack = u := by
  change UnpackedFloat.unpack .binary64 (UnpackedFloat.pack .binary64 u) = u
  cases u with
  | zero s => exact unpack_packComponents s 0#11 0#52
  | infinity s => exact unpack_packComponents s (-1#11) 0#52
  | notANumber => rfl
  | finite s m e hm =>
    obtain ⟨⟨hm53, hlow, hnormal⟩, hhigh⟩ := hu
    have hrange : ¬ 2 ^ 11 ≤ (e + (1023 : Nat) + (52 : Nat)).toNat + 1 := by omega
    have hbiased : (e + (1023 : Nat) + (52 : Nat)).toNat = (e + 1074).toNat + 1 := by omega
    rw [pack_finite, if_neg hrange, hbiased]
    have hlog53 : m.log2 < 53 := (Nat.log2_lt (by omega)).mpr hm53
    by_cases hm52 : 2 ^ 52 ≤ m
    · have hlog52 : 52 ≤ m.log2 := (Nat.le_log2 (by omega)).mpr hm52
      rw [if_pos (by omega), unpack_packComponents]
      exact assemble_of_normal s hm hlow hhigh hm52 hm53
    · have hlog52 : m.log2 < 52 := (Nat.log2_lt (by omega)).mpr (by omega)
      obtain rfl : e = -1074 := by omega
      rw [if_neg (by omega), unpack_packComponents]
      exact assemble_of_subnormal s hm (by omega)

end PenPlotter.Binary64
