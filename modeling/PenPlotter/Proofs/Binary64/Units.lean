import PenPlotter.Proofs.Binary64.Rounding

/-!
# Doubles as whole numbers of units

A finite double is a whole number of units, the unit being the smallest positive double
(`units?`).  In units, comparing doubles is comparing whole numbers (`lt_iff_of_units`,
`rank_lt_rank_of_units`), and a difference is the difference of the units, rounded to the nearest
size (`units?_sub`).
-/

namespace PenPlotter.Binary64

open Float.Model Float.Model.UnpackedFloat

/-- The number of units that an unpacked double is, if it is finite. -/
def unpackedUnits? : UnpackedFloat → Option Int
  | .zero _ => some 0
  | .finite s m e _ => some (s.apply (size m e))
  | .infinity _ | .notANumber => none

/-- The number of units that a double is, if it is finite. -/
def units? (x : Float) : Option Int :=
  unpackedUnits? x.toModel.unpack

/-! ## 1. Sizes -/

namespace IsNormal

variable {m n : Nat} {e f : Int}

theorem representable (h : IsNormal m e) : Representable (size m e) := by
  exact representable_mul h.1 _

theorem size_lt_of_lt (hm : IsNormal m e) (hn : IsNormal n f) (h : e < f) :
    size m e < size n f := by
  obtain ⟨hm53, he, -⟩ := hm
  obtain ⟨-, -, hnormal⟩ := hn
  have hn52 : 2 ^ 52 ≤ n := hnormal.resolve_right (by omega)
  calc size m e
      < 2 ^ 53 * 2 ^ (e + 1074).toNat := Nat.mul_lt_mul_of_pos_right hm53 (Nat.two_pow_pos _)
    _ = 2 ^ 52 * 2 ^ ((e + 1074).toNat + 1) := by rw [Nat.pow_succ 2 (e + 1074).toNat]; omega
    _ ≤ size n f := Nat.mul_le_mul hn52 (Nat.pow_le_pow_right (by omega) (by omega))

/-- Sizes are ordered by the exponent first and then by the mantissa. -/
theorem size_lt_iff (hm : IsNormal m e) (hn : IsNormal n f) :
    size m e < size n f ↔ e < f ∨ e = f ∧ m < n := by
  rcases Int.lt_trichotomy e f with hlt | rfl | hgt
  · exact iff_of_true (size_lt_of_lt hm hn hlt) (.inl hlt)
  · rw [size, size, Nat.mul_lt_mul_right (Nat.two_pow_pos _)]
    omega
  · have := size_lt_of_lt hn hm hgt
    omega

end IsNormal

/-- Zero, unpacked. -/
theorem unpack_zero : (ofInt 0).toModel.unpack = .zero .positive :=
  unpack_pack (u := .zero .positive) trivial

/-- A finite double is a zero, or has a mantissa and an exponent. -/
theorem unpack_of_units {x : Float} {a : Int} (hx : units? x = some a) :
    (∃ s, x.toModel.unpack = .zero s ∧ a = 0) ∨
      ∃ s m e hm, x.toModel.unpack = .finite s m e hm ∧ IsNormal m e ∧ e ≤ 971 ∧
        a = s.apply (size m e) := by
  have hcanonical := isCanonical_unpack x.toModel
  unfold units? at hx
  cases hu : x.toModel.unpack with
  | zero s =>
    rw [hu] at hx
    cases hx
    exact .inl ⟨s, rfl, rfl⟩
  | finite s m e hm =>
    rw [hu] at hx hcanonical
    cases hx
    exact .inr ⟨s, m, e, hm, rfl, hcanonical.1, hcanonical.2, rfl⟩
  | infinity s => rw [hu] at hx; cases hx
  | notANumber => rw [hu] at hx; cases hx

theorem unpack_of_units_pos {x : Float} {a : Int} (hx : units? x = some a) (ha : 0 < a) :
    ∃ m e hm, x.toModel.unpack = .finite .positive m e hm ∧ IsNormal m e ∧ e ≤ 971 ∧
      a = size m e := by
  rcases unpack_of_units hx with ⟨s, -, rfl⟩ | ⟨s, m, e, hm, hu, hnormal, he, rfl⟩
  · omega
  · cases s with
    | positive => exact ⟨m, e, hm, hu, hnormal, he, rfl⟩
    | negative =>
      simp only [Sign.apply] at ha
      omega

/-- A finite double is a representable number of units. -/
theorem representable_of_units {x : Float} {a : Int} (hx : units? x = some a) :
    Representable a.natAbs := by
  rcases unpack_of_units hx with ⟨s, -, rfl⟩ | ⟨s, m, e, hm, -, hnormal, -, rfl⟩
  · exact Nat.dvd_zero _
  · cases s with
    | positive => exact hnormal.representable
    | negative =>
      rw [Sign.apply, Int.natAbs_neg]
      exact hnormal.representable

/-! ## 2. Comparing -/

theorem compare_then_eq_lt_iff {α : Type} [Ord α] [LE α] [LT α] [Std.LawfulOrderOrd α]
    [Std.LawfulOrderLT α] (e f : Int) (m n : α) :
    (compare e f).then (compare m n) = .lt ↔ e < f ∨ e = f ∧ m < n := by
  rw [Ordering.then_eq_lt, Std.compare_eq_lt, Std.compare_eq_lt, Std.compare_eq_iff_eq]

theorem compare_swap (e f : Int) (m n : Nat) :
    ((compare e f).then (compare m n)).swap = (compare f e).then (compare n m) := by
  rw [Ordering.swap_then, Int.compare_swap, Nat.compare_swap]

theorem finite_lt_iff {s t : Sign} {m n : Nat} {e f : Int} (hm : 0 < m) (hn : 0 < n)
    (hnormal : IsNormal m e) (hnormal' : IsNormal n f) :
    (finite s m e hm).lt (finite t n f hn) = true ↔ s.apply (size m e) < t.apply (size n f) := by
  have hsize := size_pos hm e
  have hsize' := size_pos hn f
  cases s with
  | positive =>
    cases t with
    | positive =>
      change (some ((compare e f).then (compare m n)) == some .lt) = true ↔
        (size m e : Int) < size n f
      rw [beq_iff_eq, Option.some.injEq, compare_then_eq_lt_iff, Int.ofNat_lt,
        hnormal.size_lt_iff hnormal']
    | negative =>
      refine iff_of_false Bool.false_ne_true ?_
      change ¬ (size m e : Int) < -(size n f : Int)
      omega
  | negative =>
    cases t with
    | positive =>
      refine iff_of_true rfl ?_
      change -(size m e : Int) < size n f
      omega
    | negative =>
      change (some ((compare e f).then (compare m n)).swap == some .lt) = true ↔
        -(size m e : Int) < -(size n f : Int)
      rw [beq_iff_eq, Option.some.injEq, compare_swap, compare_then_eq_lt_iff, Int.neg_lt_neg_iff,
        Int.ofNat_lt, hnormal'.size_lt_iff hnormal]

theorem zero_lt_finite_iff {s t : Sign} {n : Nat} {f : Int} (hn : 0 < n) :
    (UnpackedFloat.zero s).lt (finite t n f hn) = true ↔ 0 < t.apply (size n f) := by
  have hsize := size_pos hn f
  cases t with
  | positive => exact iff_of_true rfl (Int.natCast_pos.mpr hsize)
  | negative =>
    refine iff_of_false Bool.false_ne_true ?_
    change ¬ 0 < -(size n f : Int)
    omega

theorem finite_lt_zero_iff {s t : Sign} {m : Nat} {e : Int} (hm : 0 < m) :
    (finite s m e hm).lt (UnpackedFloat.zero t) = true ↔ s.apply (size m e) < 0 := by
  have hsize := size_pos hm e
  cases s with
  | positive =>
    refine iff_of_false Bool.false_ne_true ?_
    change ¬ (size m e : Int) < 0
    omega
  | negative =>
    refine iff_of_true rfl ?_
    change -(size m e : Int) < 0
    omega

/-- Doubles are compared unpacked. -/
theorem lt_iff_unpack {x y : Float} : x < y ↔ x.toModel.unpack.lt y.toModel.unpack = true :=
  decide_eq_true_iff

/-- **The order of doubles is that of their units.** -/
theorem lt_iff_of_units {x y : Float} {a b : Int} (hx : units? x = some a)
    (hy : units? y = some b) : x < y ↔ a < b := by
  rw [lt_iff_unpack]
  rcases unpack_of_units hx with ⟨s, hu, rfl⟩ | ⟨s, m, e, hm, hu, hnormal, -, rfl⟩
  · rcases unpack_of_units hy with ⟨t, hv, rfl⟩ | ⟨t, n, f, hn, hv, -, -, rfl⟩
    · rw [hu, hv]
      exact iff_of_false Bool.false_ne_true (Int.lt_irrefl 0)
    · rw [hu, hv]
      exact zero_lt_finite_iff hn
  · rcases unpack_of_units hy with ⟨t, hv, rfl⟩ | ⟨t, n, f, hn, hv, hnormal', -, rfl⟩
    · rw [hu, hv]
      exact finite_lt_zero_iff hm
    · rw [hu, hv]
      exact finite_lt_iff hm hn hnormal hnormal'

/-- Of two finite doubles, one is at most the other unless the other is below it. -/
theorem le_eq_not_lt {u v : UnpackedFloat} {a b : Int} (hu : unpackedUnits? u = some a)
    (hv : unpackedUnits? v = some b) : u.le v = !v.lt u := by
  have hswap (o : Ordering) : (some o).any Ordering.isLE = !(some o.swap == some .lt) := by
    cases o <;> rfl
  cases u with
  | infinity | notANumber => cases hu
  | zero s =>
    cases v with
    | infinity | notANumber => cases hv
    | zero t => rfl
    | finite t n f hn => cases t <;> rfl
  | finite s m e hm =>
    cases v with
    | infinity | notANumber => cases hv
    | zero t => cases s <;> rfl
    | finite t n f hn =>
      cases s with
      | positive =>
        cases t with
        | positive =>
          change (some ((compare e f).then (compare m n))).any Ordering.isLE =
            !(some ((compare f e).then (compare n m)) == some .lt)
          rw [hswap, compare_swap]
        | negative => rfl
      | negative =>
        cases t with
        | positive => rfl
        | negative =>
          change (some ((compare e f).then (compare m n)).swap).any Ordering.isLE =
            !(some ((compare f e).then (compare n m)).swap == some .lt)
          rw [hswap, compare_swap]

theorem le_iff_of_units {x y : Float} {a b : Int} (hx : units? x = some a)
    (hy : units? y = some b) : x ≤ y ↔ a ≤ b := by
  have hle : x ≤ y ↔ x.toModel.unpack.le y.toModel.unpack = true := decide_eq_true_iff
  rw [hle, le_eq_not_lt hx hy, Bool.not_eq_true', ← Bool.not_eq_true, ← lt_iff_unpack,
    lt_iff_of_units hy hx, Int.not_lt]

section

variable {x y z : Float}

/-- A double with another one above it is finite, or is the negative infinity. -/
theorem finite_or_infinite_of_lt (h : x < y) :
    (∃ a, units? x = some a) ∨ x.toModel.unpack = .infinity .negative := by
  rw [lt_iff_unpack] at h
  unfold units?
  cases hu : x.toModel.unpack with
  | zero s => exact .inl ⟨_, rfl⟩
  | finite s m e hm => exact .inl ⟨_, rfl⟩
  | notANumber => rw [hu] at h; cases h
  | infinity s =>
    cases s with
    | negative => exact .inr rfl
    | positive =>
      rw [hu] at h
      cases hv : y.toModel.unpack with
      | zero t | finite t n f hn | notANumber => rw [hv] at h; cases h
      | infinity t => rw [hv] at h; cases t <;> cases h

/-- A double with another one below it is finite, or is the positive infinity. -/
theorem finite_or_infinite_of_gt (h : x < y) :
    (∃ b, units? y = some b) ∨ y.toModel.unpack = .infinity .positive := by
  rw [lt_iff_unpack] at h
  unfold units?
  cases hv : y.toModel.unpack with
  | zero s => exact .inl ⟨_, rfl⟩
  | finite s m e hm => exact .inl ⟨_, rfl⟩
  | notANumber => rw [hv] at h; cases hu : x.toModel.unpack <;> rw [hu] at h <;> cases h
  | infinity s =>
    cases s with
    | positive => exact .inr rfl
    | negative =>
      rw [hv] at h
      cases hu : x.toModel.unpack with
      | zero t | finite t n f hn | notANumber => rw [hu] at h; cases h
      | infinity t => rw [hu] at h; cases t <;> cases h

/-- No double is below itself. -/
theorem lt_irrefl (x : Float) : ¬ x < x := by
  intro h
  rcases finite_or_infinite_of_lt h with ⟨a, ha⟩ | hinf
  · exact Int.lt_irrefl a ((lt_iff_of_units ha ha).mp h)
  · rw [lt_iff_unpack, hinf] at h
    cases h

/-- **To be below is transitive.** -/
theorem lt_trans (hxy : x < y) (hyz : y < z) : x < z := by
  obtain ⟨b, hb⟩ : ∃ b, units? y = some b := by
    rcases finite_or_infinite_of_lt hyz with hb | hy
    · exact hb
    · rcases finite_or_infinite_of_gt hxy with hb | hy'
      · exact hb
      · rw [hy] at hy'
        cases hy'
  rcases finite_or_infinite_of_lt hxy with ⟨a, ha⟩ | hx
  · rcases finite_or_infinite_of_gt hyz with ⟨c, hc⟩ | hz
    · rw [lt_iff_of_units ha hb] at hxy
      rw [lt_iff_of_units hb hc] at hyz
      exact (lt_iff_of_units ha hc).mpr (Int.lt_trans hxy hyz)
    · rw [lt_iff_unpack, hz]
      rcases unpack_of_units ha with ⟨s, hu, -⟩ | ⟨s, m, e, hm, hu, -⟩
      all_goals rw [hu]; rfl
  · rw [lt_iff_unpack, hx]
    rcases finite_or_infinite_of_gt hyz with ⟨c, hc⟩ | hz
    · rcases unpack_of_units hc with ⟨s, hu, -⟩ | ⟨s, m, e, hm, hu, -⟩
      all_goals rw [hu]; rfl
    · rw [hz]; rfl

end

/-- The rank of a double, from its pattern. -/
theorem rank_eq (x : Float) :
    rank x = if pattern x.toModel.unpack < 2 ^ 63 then (pattern x.toModel.unpack : Int)
      else -((pattern x.toModel.unpack - 2 ^ 63 : Nat) : Int) - 1 := by
  rw [← toNat_toBits]
  rfl

theorem rank_of_zero {x : Float} {s : Sign} (hx : x.toModel.unpack = .zero s) :
    rank x = 0 ∨ rank x = -1 := by
  rw [rank_eq, hx]
  cases s with
  | positive => exact .inl rfl
  | negative => exact .inr rfl

/-- The place of a size among all sizes. -/
def place (m : Nat) (e : Int) : Nat :=
  (e + 1074).toNat * 2 ^ 52 + m

theorem IsNormal.place_lt_of_size_lt {m n : Nat} {e f : Int} (hm : IsNormal m e)
    (hn : IsNormal n f) (h : size m e < size n f) : place m e < place n f := by
  have horder := (hm.size_lt_iff hn).mp h
  obtain ⟨hm53, hlow, -⟩ := hm
  obtain ⟨-, -, hn52⟩ := hn
  simp only [place]
  omega

theorem rank_of_positive {x : Float} {m : Nat} {e : Int} {hm : 0 < m}
    (hx : x.toModel.unpack = .finite .positive m e hm) (hnormal : IsNormal m e) (he : e ≤ 971) :
    rank x = place m e := by
  have hm53 := hnormal.1
  have hpattern : pattern (.finite .positive m e hm) = place m e := Nat.zero_add _
  rw [rank_eq, hx, hpattern]
  simp only [place]
  omega

theorem rank_of_negative {x : Float} {m : Nat} {e : Int} {hm : 0 < m}
    (hx : x.toModel.unpack = .finite .negative m e hm) :
    rank x = -(place m e : Int) - 1 := by
  have hpattern : pattern (.finite .negative m e hm) = 2 ^ 63 + place m e := rfl
  rw [rank_eq, hx, hpattern]
  omega

/-- **A double of fewer units has a lower rank.** -/
theorem rank_lt_rank_of_units {x y : Float} {a b : Int} (hx : units? x = some a)
    (hy : units? y = some b) (h : a < b) : rank x < rank y := by
  have hpos : ∀ {k : Nat} {g : Int}, 0 < k → 0 < place k g := by
    intro k g hk
    exact Nat.lt_of_lt_of_le hk (Nat.le_add_left _ _)
  rcases unpack_of_units hx with ⟨s, hu, rfl⟩ | ⟨s, m, e, hm, hu, hnormal, he, rfl⟩
  · have hrank := rank_of_zero hu
    rcases unpack_of_units hy with ⟨t, hv, rfl⟩ | ⟨t, n, f, hn, hv, hnormal', hf, rfl⟩
    · omega
    · cases t with
      | positive =>
        have hplace : 0 < place n f := hpos hn
        rw [rank_of_positive hv hnormal' hf]
        omega
      | negative =>
        simp only [Sign.apply] at h
        omega
  · rcases unpack_of_units hy with ⟨t, hv, rfl⟩ | ⟨t, n, f, hn, hv, hnormal', hf, rfl⟩
    · have hrank := rank_of_zero hv
      cases s with
      | positive =>
        simp only [Sign.apply] at h
        omega
      | negative =>
        have hplace : 0 < place m e := hpos hm
        rw [rank_of_negative hu]
        omega
    · cases s with
      | positive =>
        cases t with
        | positive =>
          have hplace := hnormal.place_lt_of_size_lt hnormal' (Int.ofNat_lt.mp h)
          rw [rank_of_positive hu hnormal he, rank_of_positive hv hnormal' hf]
          omega
        | negative =>
          simp only [Sign.apply] at h
          omega
      | negative =>
        cases t with
        | positive =>
          rw [rank_of_negative hu, rank_of_positive hv hnormal' hf]
          omega
        | negative =>
          have hplace := hnormal'.place_lt_of_size_lt hnormal (by
            simp only [Sign.apply] at h
            omega)
          rw [rank_of_negative hu, rank_of_negative hv]
          omega

/-- The rank of a positive double is positive. -/
theorem rank_pos_of_units {x : Float} {a : Int} (hx : units? x = some a) (ha : 0 < a) :
    0 < rank x := by
  obtain ⟨m, e, hm, hu, hnormal, he, -⟩ := unpack_of_units_pos hx ha
  rw [rank_of_positive hu hnormal he, place]
  omega

/-! ## 3. Subtracting -/

/-- A number of units rounded to the nearest one that is a double, were there no largest double. -/
def nearestInt (a : Int) : Int :=
  a.sign * nearest a.natAbs

theorem nearestInt_natCast (n : Nat) : nearestInt n = nearest n := by
  rcases Nat.eq_zero_or_pos n with rfl | hpos
  · rfl
  · rw [nearestInt, Int.sign_natCast_of_ne_zero (by omega), Int.one_mul, Int.natAbs_natCast]

theorem nearestInt_nonpos {a : Int} (ha : a ≤ 0) : nearestInt a ≤ 0 := by
  rcases Int.lt_or_eq_of_le ha with hneg | rfl
  · rw [nearestInt, Int.sign_eq_neg_one_of_neg hneg, Int.neg_one_mul]
    omega
  · exact Int.le_refl 0

/-- The smallest size that no double has, as it would need too large an exponent. -/
def sizeLimit : Nat :=
  size (2 ^ 52) 972

theorem isNormal_limit : IsNormal (2 ^ 52) 972 :=
  ⟨by decide, by decide, .inl (Nat.le_refl _)⟩

theorem IsNormal.size_lt_limit_iff {m : Nat} {e : Int} (h : IsNormal m e) :
    size m e < sizeLimit ↔ e ≤ 971 := by
  rw [sizeLimit, h.size_lt_iff isNormal_limit]
  obtain ⟨-, -, hnormal⟩ := h
  omega

theorem lt_limit_of_units {x : Float} {a : Int} (hx : units? x = some a) :
    a.natAbs < sizeLimit := by
  rcases unpack_of_units hx with ⟨s, -, rfl⟩ | ⟨s, m, e, hm, -, hnormal, he, rfl⟩
  · exact size_pos (Nat.two_pow_pos 52) 972
  · have hlt := hnormal.size_lt_limit_iff.mpr he
    cases s with
    | positive => exact hlt
    | negative =>
      rw [Sign.apply, Int.natAbs_neg]
      exact hlt

/-- What rounding packs, in units. -/
theorem units?_pack_round (s : Sign) {m : Nat} {e : Int} (hm : 0 < m) (he : -1074 ≤ e)
    (hlimit : nearest (size m e) < sizeLimit) :
    units? (.ofModel (.pack (round .binary64 s m e))) = some (s.apply (nearest (size m e))) := by
  obtain ⟨m', e', hm', hround, hnormal, hsize⟩ := round_spec s hm he
  rw [← hsize] at hlimit
  rw [units?, unpack_pack (hround ▸ ⟨hnormal, hnormal.size_lt_limit_iff.mp hlimit⟩), hround,
    ← hsize]
  rfl

theorem nearestInt_mul_two_pow (n : Int) (k : Nat) :
    nearestInt (n * 2 ^ k) = n.sign * nearest (n.natAbs * 2 ^ k) := by
  have hpow : (2 : Int) ^ k = ((2 ^ k : Nat) : Int) := by rw [Int.natCast_pow]; rfl
  rw [hpow, nearestInt, Int.sign_mul, Int.natAbs_mul, Int.natAbs_natCast,
    Int.sign_natCast_of_ne_zero (Nat.pos_iff_ne_zero.mp (Nat.two_pow_pos k)), Int.mul_one]

/-- A multiple of `2 ^ e`, packed, is rounded to the nearest double. -/
theorem units?_pack_normalize {n e : Int} (he : -1074 ≤ e)
    (hlimit : nearest (size n.natAbs e) < sizeLimit) :
    units? (.ofModel (.pack (normalize .binary64 n e .positive))) =
      some (nearestInt (n * 2 ^ (e + 1074).toNat)) := by
  rw [nearestInt_mul_two_pow, ← size]
  rcases Int.lt_trichotomy n 0 with hneg | rfl | hpos
  · have hround : normalize .binary64 n e .positive = round .binary64 .negative n.natAbs e := by
      rw [UnpackedFloat.normalize, Std.compare_eq_lt.mpr hneg, ← Int.natAbs_neg n]
      exact congrArg (round .binary64 .negative · e) (by omega)
    rw [hround, units?_pack_round .negative (by omega) he hlimit, Int.sign_eq_neg_one_of_neg hneg,
      Int.neg_one_mul]
    rfl
  · have hzero : normalize .binary64 0 e .positive = .zero .positive := rfl
    rw [hzero, units?, unpack_pack (u := .zero .positive) trivial, Int.sign_zero, Int.zero_mul]
    rfl
  · have hround : normalize .binary64 n e .positive = round .binary64 .positive n.natAbs e := by
      rw [UnpackedFloat.normalize, Std.compare_eq_gt.mpr hpos]
      exact congrArg (round .binary64 .positive · e) (by omega)
    rw [hround, units?_pack_round .positive (by omega) he hlimit, Int.sign_eq_one_of_pos hpos,
      Int.one_mul]
    rfl

/-- A mantissa brought to a smaller exponent has the same size. -/
theorem size_shiftLeft {m : Nat} {e g : Int} (hg : -1074 ≤ g) (hle : g ≤ e) :
    size (m <<< (e - g).toNat) g = size m e := by
  rw [size, size, Nat.shiftLeft_eq, Nat.mul_assoc, ← Nat.pow_add]
  congr 2
  omega

/-- **Subtracting positive doubles is subtracting and rounding their units.** -/
theorem units?_sub {x y : Float} {a b : Int} (hx : units? x = some a) (hy : units? y = some b)
    (ha : 0 < a) (hb : 0 < b) : units? (x - y) = some (nearestInt (a - b)) := by
  have halimit := lt_limit_of_units hx
  have hblimit := lt_limit_of_units hy
  have harep := nearest_of_representable (representable_of_units hx)
  have hbrep := nearest_of_representable (representable_of_units hy)
  obtain ⟨m, e, hm, hu, ⟨-, he, -⟩, -, rfl⟩ := unpack_of_units_pos hx ha
  obtain ⟨n, f, hn, hv, ⟨-, hf, -⟩, -, rfl⟩ := unpack_of_units_pos hy hb
  have hm' := size_shiftLeft (m := m) (g := min e f) (by omega) (Int.min_le_left e f)
  have hn' := size_shiftLeft (m := n) (g := min e f) (by omega) (Int.min_le_right e f)
  generalize hp : m <<< (e - min e f).toNat = p at hm'
  generalize hq : n <<< (f - min e f).toNat = q at hn'
  -- Both are brought to the smaller exponent, and their difference is exact before it is rounded.
  have hsub : x - y =
      .ofModel (.pack (normalize .binary64 ((p : Int) - q) (min e f) .positive)) := by
    rw [← hp, ← hq]
    change Float.ofModel (.pack (UnpackedFloat.sub .binary64 x.toModel.unpack y.toModel.unpack)) = _
    rw [hu, hv]
    rfl
  have hunits : ((p : Int) - q) * 2 ^ (min e f + 1074).toNat = (size m e : Int) - size n f := by
    rw [Int.sub_mul, ← hm', ← hn', size, size]
    simp
  have hsize : size ((p : Int) - q).natAbs (min e f) = ((size m e : Int) - size n f).natAbs := by
    rw [← hunits, Int.natAbs_mul, Int.natAbs_pow]
    rfl
  rw [hsub, units?_pack_normalize (by omega), hunits]
  -- A difference is no larger than the larger one of the two.
  rw [hsize]
  simp only [Int.natAbs_natCast] at halimit hblimit harep hbrep
  rcases Nat.le_total (size m e) (size n f) with hle | hle
  · have := nearest_mono (show ((size m e : Int) - size n f).natAbs ≤ size n f by omega)
    omega
  · have := nearest_mono (show ((size m e : Int) - size n f).natAbs ≤ size m e by omega)
    omega

end PenPlotter.Binary64
