import PenPlotter.Proofs.Binary64.Units

/-!
# Whole numbers among the doubles

Whole numbers become doubles by `ofInt` and doubles become whole numbers by `whole`.  The way there
and back changes large whole numbers, since not all of them are doubles.  It changes none that is a
double (`whole_ofInt`), and what `whole` gives is one (`isDouble_of_whole`).
-/

namespace PenPlotter.Binary64

open Float.Model Float.Model.UnpackedFloat

/-- The number one, in units. -/
def unitsInOne : Nat :=
  size 1 0

/-- Whether a whole number is a double. -/
def IsDouble (n : Int) : Prop :=
  Representable (n.natAbs * unitsInOne)

/-! ## 1. Whole numbers in units -/

theorem size_zero (m : Nat) : size m 0 = m * unitsInOne := by
  rw [unitsInOne, size, size, Nat.one_mul]

theorem size_ofNat (m j : Nat) : size m (Int.ofNat j) = m <<< j * unitsInOne := by
  have hshift : size m (Int.ofNat j) = size (m <<< j) 0 :=
    (size_shiftLeft (by decide) (Int.natCast_nonneg j)).symm
  rw [hshift, size_zero]

theorem unitsInOne_pos : 0 < unitsInOne := by
  rw [unitsInOne]
  exact size_pos Nat.one_pos 0

theorem natCast_unitsInOne_pos : (0 : Int) < unitsInOne :=
  Int.natCast_pos.mpr unitsInOne_pos

theorem unitsInOne_eq {e : Int} (he : -1074 ≤ e) (hneg : e ≤ 0) :
    unitsInOne = 2 ^ (-e).toNat * 2 ^ (e + 1074).toNat := by
  rw [unitsInOne, size, Nat.one_mul, ← Nat.pow_add]
  congr 1
  omega

theorem natAbs_mul_unitsInOne (n : Int) :
    (n * unitsInOne).natAbs = n.natAbs * unitsInOne := by
  rw [Int.natAbs_mul, Int.natAbs_natCast]

/-- A whole number of 63 binary digits, as a double. -/
theorem units?_ofInt {n : Int} (hn : n.natAbs ≤ 2 ^ 63) :
    units? (ofInt n) = some (nearestInt (n * unitsInOne)) := by
  have hshift : 2 ^ 52 <<< ((11 : Int) - 0).toNat = 2 ^ 63 := by decide
  have hsize : size (2 ^ 63) 0 = size (2 ^ 52) 11 := by
    rw [← hshift]
    exact size_shiftLeft (by decide) (by decide)
  have hnormal : IsNormal (2 ^ 52) 11 := ⟨by decide, by decide, .inl (Nat.le_refl _)⟩
  have hle : size n.natAbs 0 ≤ size (2 ^ 52) 11 := by
    rw [← hsize, size_zero, size_zero]
    exact Nat.mul_le_mul_right _ hn
  have hlimit : nearest (size n.natAbs 0) < sizeLimit := by
    calc nearest (size n.natAbs 0)
        ≤ nearest (size (2 ^ 52) 11) := nearest_mono hle
      _ = size (2 ^ 52) 11 := nearest_of_representable hnormal.representable
      _ < sizeLimit := hnormal.size_lt_limit_iff.mpr (by decide)
  have hunits : n * 2 ^ ((0 : Int) + 1074).toNat = n * unitsInOne := by
    rw [unitsInOne, size, Nat.one_mul, Int.natCast_pow]
    rfl
  rw [← hunits]
  exact units?_pack_normalize (by decide) hlimit

theorem IsDouble.nearestInt_eq {n : Int} (h : IsDouble n) :
    nearestInt (n * unitsInOne) = n * unitsInOne := by
  rw [nearestInt, natAbs_mul_unitsInOne, nearest_of_representable h, ← natAbs_mul_unitsInOne,
    Int.sign_mul_natAbs]

theorem IsDouble.units?_ofInt {n : Int} (h : IsDouble n) (hn : n.natAbs ≤ 2 ^ 63) :
    units? (ofInt n) = some (n * unitsInOne) := by
  rw [Binary64.units?_ofInt hn, h.nearestInt_eq]

/-- A whole number that is a double, whatever its size. -/
theorem IsDouble.units?_ofInt_of_lt {n : Int} (h : IsDouble n)
    (hlimit : n.natAbs * unitsInOne < sizeLimit) : units? (ofInt n) = some (n * unitsInOne) := by
  have hnearest : nearest (size n.natAbs 0) < sizeLimit := by
    rwa [size_zero, nearest_of_representable h]
  have hunits : n * 2 ^ ((0 : Int) + 1074).toNat = n * unitsInOne := by
    rw [unitsInOne, size, Nat.one_mul, Int.natCast_pow]
    rfl
  rw [← h.nearestInt_eq, ← hunits]
  exact units?_pack_normalize (by decide) hnearest

/-- Whole numbers of up to 53 binary digits are doubles, and so is the first one with more. -/
theorem isDouble_of_natAbs_le {n : Int} (h : n.natAbs ≤ 2 ^ 53) : IsDouble n := by
  rw [IsDouble, ← size_zero]
  rcases Nat.lt_or_eq_of_le h with hlt | heq
  · exact representable_mul hlt _
  · have hshift : 2 ^ 53 = 2 ^ 52 <<< ((1 : Int) - 0).toNat := by decide
    rw [heq, hshift, size_shiftLeft (by decide) (by decide)]
    exact representable_mul (by decide) _

/-! ## 2. The way there and back -/

/-- Rounding a whole number of ones gives their number. -/
theorem nearestNat_of_size {m k : Nat} {e : Int} (he : -1074 ≤ e)
    (hsize : size m e = k * unitsInOne) : nearestNat m e = k := by
  cases e with
  | ofNat j =>
    rw [size_ofNat] at hsize
    exact Nat.eq_of_mul_eq_mul_right unitsInOne_pos hsize
  | negSucc j =>
    rw [unitsInOne_eq he (by omega), ← Nat.mul_assoc, size] at hsize
    have hm : m = k * 2 ^ (j + 1) := Nat.eq_of_mul_eq_mul_right (Nat.two_pow_pos _) hsize
    have hhalf : 2 ^ j < 2 ^ (j + 1) := Nat.pow_lt_pow_right (by omega) (by omega)
    rw [nearestNat, hm, Nat.shiftLeft_eq, Nat.one_mul, Nat.shiftRight_eq_div_pow,
      Nat.mul_comm, Nat.mul_add_div (Nat.two_pow_pos _), Nat.div_eq_of_lt hhalf, Nat.add_zero]

theorem whole_of_units {x : Float} {n : Int} (hx : units? x = some (n * unitsInOne)) :
    whole x = .number n := by
  have hone := natCast_unitsInOne_pos
  rcases unpack_of_units hx with ⟨s, hu, hzero⟩ | ⟨s, m, e, hm, hu, ⟨-, he, -⟩, -, hsize⟩
  · have hn : n = 0 := (Int.mul_eq_zero.mp hzero).resolve_right (by omega)
    rw [whole, hu, hn]
  · have hpos := size_pos hm e
    cases s with
    | positive =>
      rw [Sign.apply] at hsize
      have hn : 0 < n := Int.lt_of_mul_lt_mul_right (a := unitsInOne) (by omega) (by omega)
      obtain ⟨k, rfl⟩ := Int.eq_ofNat_of_zero_le (Int.le_of_lt hn)
      have hk : size m e = k * unitsInOne := by exact_mod_cast hsize.symm
      rw [whole, hu]
      exact congrArg (fun k : Nat => Whole.number k) (nearestNat_of_size he hk)
    | negative =>
      rw [Sign.apply] at hsize
      have hn : n < 0 := Int.lt_of_mul_lt_mul_right (a := unitsInOne) (by omega) (by omega)
      obtain ⟨k, rfl⟩ := Int.exists_eq_neg_ofNat (Int.le_of_lt hn)
      have hk : size m e = k * unitsInOne := by
        rw [Int.neg_mul] at hsize
        exact_mod_cast (Int.neg_inj.mp hsize).symm
      rw [whole, hu]
      exact congrArg (fun k : Nat => Whole.number (-(k : Int))) (nearestNat_of_size he hk)

/-- **A whole number that is a double comes back from the doubles.** -/
theorem whole_ofInt {n : Int} (h : IsDouble n) (hn : n.natAbs ≤ 2 ^ 63) :
    whole (ofInt n) = .number n :=
  whole_of_units (h.units?_ofInt hn)

/-- A number with places behind the point is not larger than its mantissa. -/
theorem nearestNat_negSucc_le (m j : Nat) : nearestNat m (Int.negSucc j) ≤ m := by
  have hhalf : 2 ^ j < 2 ^ (j + 1) := Nat.pow_lt_pow_right (by omega) (by omega)
  refine Nat.le_of_lt_succ ?_
  rw [nearestNat, Nat.shiftLeft_eq, Nat.one_mul, Nat.shiftRight_eq_div_pow,
    Nat.div_lt_iff_lt_mul (Nat.two_pow_pos _), Nat.succ_mul]
  exact Nat.add_lt_add_of_le_of_lt (Nat.le_mul_of_pos_right m (Nat.two_pow_pos _)) hhalf

/-- A mantissa of 53 binary digits makes a whole number that is a double. -/
theorem representable_nearestNat {m : Nat} {e : Int} (hnormal : IsNormal m e) :
    Representable (nearestNat m e * unitsInOne) := by
  cases e with
  | ofNat j =>
    rw [nearestNat, ← size_ofNat]
    exact hnormal.representable
  | negSucc j =>
    rw [← size_zero]
    exact representable_mul (Nat.lt_of_le_of_lt (nearestNat_negSucc_le m j) hnormal.1) _

theorem nearestNat_lt_limit {m : Nat} {e : Int} (hnormal : IsNormal m e) (he : e ≤ 971) :
    nearestNat m e * unitsInOne < sizeLimit := by
  cases e with
  | ofNat j =>
    rw [nearestNat, ← size_ofNat]
    exact hnormal.size_lt_limit_iff.mpr he
  | negSucc j =>
    calc nearestNat m (Int.negSucc j) * unitsInOne
        ≤ m * unitsInOne := Nat.mul_le_mul_right _ (nearestNat_negSucc_le m j)
      _ < 2 ^ 53 * unitsInOne := Nat.mul_lt_mul_of_pos_right hnormal.1 unitsInOne_pos
      _ ≤ sizeLimit := by decide +kernel

/-- **What a double is rounded to is a double.** -/
theorem isDouble_of_whole {x : Float} {n : Int} (hx : whole x = .number n) : IsDouble n := by
  have hcanonical := isCanonical_unpack x.toModel
  unfold whole at hx
  unfold IsDouble
  cases hu : x.toModel.unpack with
  | zero s =>
    rw [hu] at hx
    cases hx
    rw [Int.natAbs_zero, Nat.zero_mul]
    exact Nat.dvd_zero _
  | finite s m e hm =>
    rw [hu] at hcanonical
    cases s with
    | positive =>
      rw [hu] at hx
      cases hx
      exact representable_nearestNat hcanonical.1
    | negative =>
      rw [hu] at hx
      cases hx
      rw [Int.natAbs_neg]
      exact representable_nearestNat hcanonical.1
  | infinity s => rw [hu] at hx; cases hx
  | notANumber => rw [hu] at hx; cases hx

/-- What a double is rounded to is not too large for a double. -/
theorem lt_limit_of_whole {x : Float} {n : Int} (hx : whole x = .number n) :
    n.natAbs * unitsInOne < sizeLimit := by
  have hcanonical := isCanonical_unpack x.toModel
  unfold whole at hx
  cases hu : x.toModel.unpack with
  | zero s =>
    rw [hu] at hx
    cases hx
    rw [Int.natAbs_zero, Nat.zero_mul]
    exact size_pos (Nat.two_pow_pos 52) 972
  | finite s m e hm =>
    rw [hu] at hx hcanonical
    have hlimit := nearestNat_lt_limit hcanonical.1 hcanonical.2
    cases s with
    | positive =>
      cases hx
      exact hlimit
    | negative =>
      cases hx
      rwa [Int.natAbs_neg]
  | infinity s => rw [hu] at hx; cases hx
  | notANumber => rw [hu] at hx; cases hx

/-- **The rounded number as a double again, in units.** -/
theorem units?_ofInt_of_whole {x : Float} {n : Int} (hx : whole x = .number n) :
    units? (ofInt n) = some (n * unitsInOne) :=
  (isDouble_of_whole hx).units?_ofInt_of_lt (lt_limit_of_whole hx)

/-! ## 3. Order -/

/-- Larger whole numbers have larger ranks if they are doubles. -/
theorem rank_ofInt_lt {n k : Int} (hn : IsDouble n) (hk : IsDouble k) (hn63 : n.natAbs ≤ 2 ^ 63)
    (hk63 : k.natAbs ≤ 2 ^ 63) (hlt : n < k) : rank (ofInt n) < rank (ofInt k) :=
  rank_lt_rank_of_units (hn.units?_ofInt hn63) (hk.units?_ofInt hk63)
    (Int.mul_lt_mul_of_pos_right hlt natCast_unitsInOne_pos)

/-- **Whole numbers that are doubles keep their order.** -/
theorem order_ofInt {n k : Int} (hn : IsDouble n) (hk : IsDouble k) (hn63 : n.natAbs ≤ 2 ^ 63)
    (hk63 : k.natAbs ≤ 2 ^ 63) : order (ofInt n) (ofInt k) = compare n k := by
  rcases Int.lt_trichotomy n k with hlt | rfl | hgt
  · rw [order, Std.compare_eq_lt.mpr (rank_ofInt_lt hn hk hn63 hk63 hlt),
      Std.compare_eq_lt.mpr hlt]
  · rw [order, Std.compare_self, Std.compare_self]
  · rw [order, Std.compare_eq_gt.mpr (rank_ofInt_lt hk hn hk63 hn63 hgt),
      Std.compare_eq_gt.mpr hgt]

/-- A finite double that is not at or below zero is a positive number of units. -/
theorem exists_units_of_not_le_zero {x : Float} (hfinite : x.isFinite = true)
    (hpos : ¬ x ≤ ofInt 0) : ∃ n : Nat, 0 < n ∧ units? x = some (n : Int) := by
  have hle : ¬ x.toModel.unpack.le (.zero .positive) = true := by
    intro h
    rw [← unpack_zero] at h
    exact hpos (decide_eq_true (p := x.toModel.unpack.le (ofInt 0).toModel.unpack = true) h)
  have hunpack : x.toModel.unpack.isFinite = true := hfinite
  cases hu : x.toModel.unpack with
  | zero s =>
    rw [hu] at hle
    exact absurd rfl hle
  | finite s m e hm =>
    cases s with
    | positive => exact ⟨size m e, size_pos hm e, congrArg unpackedUnits? hu⟩
    | negative =>
      rw [hu] at hle
      exact absurd rfl hle
  | infinity s => rw [hu] at hunpack; cases hunpack
  | notANumber => rw [hu] at hunpack; cases hunpack

end PenPlotter.Binary64
