import Mathlib.Algebra.Order.Ring.Int

/-!
# Rounding to 53 binary digits

The size of a finite double is a whole number of units, the unit being the smallest positive double.
Not every number of units is the size of a double: 53 binary digits have to be enough for it, apart
from zeros at the end.  The double nearest to `n` units has `nearest n` units, a tie going to the
even mantissa.

The last section takes the same number off a size again and again, rounding each time.  If the
second subtraction makes the size smaller, then so do all that follow (`nearest_sub_lt`).
-/

namespace PenPlotter.Binary64

/-- How many binary digits a number has beyond 53.  Sizes of doubles near `n` are `2 ^ excess n`
apart. -/
def excess (n : Nat) : Nat :=
  n.log2 - 52

/-- Whether a number of units is the size of a double. -/
def Representable (n : Nat) : Prop :=
  2 ^ excess n ∣ n

/-- The whole number nearest to `n / 2 ^ k`; a tie goes to the even one. -/
def halfEven (n k : Nat) : Nat :=
  if 2 * (n % 2 ^ k) < 2 ^ k then n / 2 ^ k
  else if 2 * (n % 2 ^ k) = 2 ^ k then n / 2 ^ k + n / 2 ^ k % 2
  else n / 2 ^ k + 1

/-- The size of a double that is nearest to a number of units. -/
def nearest (n : Nat) : Nat :=
  halfEven n (excess n) * 2 ^ excess n

/-! ## 1. The spacing of sizes -/

theorem excess_mono {a b : Nat} (h : a ≤ b) : excess a ≤ excess b := by
  by_cases ha : a = 0
  · rw [ha]
    exact Nat.zero_le _
  · have hlog : a.log2 ≤ b.log2 :=
      (Nat.le_log2 (by omega)).mpr (Nat.le_trans (Nat.log2_self_le ha) h)
    simp only [excess]
    omega

theorem lt_two_pow_excess (n : Nat) : n < 2 ^ (excess n + 53) := by
  have hlog : n < 2 ^ (n.log2 + 1) := Nat.lt_log2_self
  have hpow : 2 ^ (n.log2 + 1) ≤ 2 ^ (excess n + 53) :=
    Nat.pow_le_pow_right (by omega) (by simp only [excess]; omega)
  omega

theorem two_pow_excess_le {n : Nat} (h : excess n ≠ 0) : 2 ^ (excess n + 52) ≤ n := by
  have hlog : excess n + 52 = n.log2 := by simp only [excess] at *; omega
  rw [hlog]
  exact Nat.log2_self_le (by rintro rfl; exact h rfl)

/-- The excess is known from a power of two below and one above. -/
theorem excess_eq {n k : Nat} (hlow : 2 ^ (k + 52) ≤ n) (hhigh : n < 2 ^ (k + 53)) :
    excess n = k := by
  have hn : n ≠ 0 := by
    have := Nat.two_pow_pos (k + 52)
    omega
  have h1 : k + 52 ≤ n.log2 := (Nat.le_log2 hn).mpr hlow
  have h2 : n.log2 < k + 53 := (Nat.log2_lt hn).mpr hhigh
  simp only [excess]
  omega

theorem excess_eq_zero {n : Nat} (h : n < 2 ^ 53) : excess n = 0 := by
  by_cases hn : n = 0
  · rw [hn]
    rfl
  · have hlog : n.log2 < 53 := (Nat.log2_lt hn).mpr h
    simp only [excess]
    omega

/-! ## 2. Rounding a quotient -/

/-- The rounded quotient is at most a half away, and in a tie it is even. -/
theorem halfEven_spec (n k : Nat) :
    2 * n ≤ 2 * (halfEven n k * 2 ^ k) + 2 ^ k ∧ 2 * (halfEven n k * 2 ^ k) ≤ 2 * n + 2 ^ k ∧
      (2 * n = 2 * (halfEven n k * 2 ^ k) + 2 ^ k → halfEven n k % 2 = 0) ∧
      (2 * (halfEven n k * 2 ^ k) = 2 * n + 2 ^ k → halfEven n k % 2 = 0) := by
  have hpos := Nat.two_pow_pos k
  have hdiv := Nat.div_add_mod' n (2 ^ k)
  have hlt := Nat.mod_lt n hpos
  rcases Nat.mod_two_eq_zero_or_one (n / 2 ^ k) with heven | hodd
  all_goals
    unfold halfEven
    split
    · omega
    · split
      · simp only [*, Nat.add_mul, Nat.one_mul, Nat.zero_mul]
        omega
      · simp only [Nat.add_mul, Nat.one_mul]
        omega

theorem halfEven_mono {a b : Nat} (h : a ≤ b) (k : Nat) : halfEven a k ≤ halfEven b k := by
  obtain ⟨-, ha, -, haeven⟩ := halfEven_spec a k
  obtain ⟨hb, -, hbeven, -⟩ := halfEven_spec b k
  refine Nat.le_of_not_lt fun hlt => ?_
  -- Between the two there would have to be a tie that goes both up and down.
  have hmul : (halfEven b k + 1) * 2 ^ k ≤ halfEven a k * 2 ^ k := Nat.mul_le_mul_right _ hlt
  rw [Nat.add_mul, Nat.one_mul] at hmul
  have heq : (halfEven b k + 1) * 2 ^ k = halfEven a k * 2 ^ k := by
    rw [Nat.add_mul, Nat.one_mul]
    omega
  have hsucc : halfEven b k + 1 = halfEven a k :=
    Nat.eq_of_mul_eq_mul_right (Nat.two_pow_pos k) heq
  have := haeven (by omega)
  have := hbeven (by omega)
  omega

/-- A multiple is rounded to its quotient. -/
theorem halfEven_mul (q k : Nat) : halfEven (q * 2 ^ k) k = q := by
  have hpos := Nat.two_pow_pos k
  simp [halfEven, hpos]

/-- Rounding a quotient depends on the quotient alone. -/
theorem halfEven_mul_add (n j k : Nat) : halfEven (n * 2 ^ j) (k + j) = halfEven n k := by
  have hpos := Nat.two_pow_pos j
  have hmod : n * 2 ^ j % 2 ^ (k + j) = n % 2 ^ k * 2 ^ j := by
    rw [Nat.pow_add, Nat.mul_mod_mul_right]
  have hdiv : n * 2 ^ j / 2 ^ (k + j) = n / 2 ^ k := by
    rw [Nat.pow_add, Nat.mul_div_mul_right _ _ hpos]
  have hlt : 2 * (n % 2 ^ k * 2 ^ j) < 2 ^ (k + j) ↔ 2 * (n % 2 ^ k) < 2 ^ k := by
    rw [Nat.pow_add, ← Nat.mul_assoc]
    exact Nat.mul_lt_mul_right hpos
  have heq : 2 * (n % 2 ^ k * 2 ^ j) = 2 ^ (k + j) ↔ 2 * (n % 2 ^ k) = 2 ^ k := by
    rw [Nat.pow_add, ← Nat.mul_assoc]
    exact Nat.mul_left_inj (Nat.pos_iff_ne_zero.mp hpos)
  simp only [halfEven, hmod, hdiv, hlt, heq]

/-! ## 3. Rounding a size -/

theorem halfEven_excess_le (n : Nat) : halfEven n (excess n) ≤ 2 ^ 53 := by
  have hlt := lt_two_pow_excess n
  rw [Nat.add_comm, Nat.pow_add] at hlt
  have hmono := halfEven_mono (Nat.le_of_lt hlt) (excess n)
  rw [halfEven_mul] at hmono
  exact hmono

theorem le_halfEven_excess {n : Nat} (h : excess n ≠ 0) : 2 ^ 52 ≤ halfEven n (excess n) := by
  have hle := two_pow_excess_le h
  rw [Nat.add_comm, Nat.pow_add] at hle
  have hmono := halfEven_mono hle (excess n)
  rw [halfEven_mul] at hmono
  exact hmono

theorem nearest_of_representable {n : Nat} (h : Representable n) : nearest n = n := by
  obtain ⟨q, hq⟩ := h
  rw [nearest]
  generalize excess n = k at hq
  rw [hq, Nat.mul_comm (2 ^ k) q, halfEven_mul]

theorem nearest_mono {a b : Nat} (h : a ≤ b) : nearest a ≤ nearest b := by
  rcases Nat.eq_or_lt_of_le (excess_mono h) with heq | hlt
  · rw [nearest, nearest, heq]
    exact Nat.mul_le_mul_right _ (halfEven_mono h _)
  · calc nearest a ≤ 2 ^ 53 * 2 ^ excess a := Nat.mul_le_mul_right _ (halfEven_excess_le a)
      _ = 2 ^ 52 * 2 ^ (excess a + 1) := by rw [Nat.pow_succ, Nat.mul_comm _ 2]; omega
      _ ≤ 2 ^ 52 * 2 ^ excess b := Nat.mul_le_mul_left _ (Nat.pow_le_pow_right (by omega) hlt)
      _ ≤ nearest b := Nat.mul_le_mul_right _ (le_halfEven_excess (by omega))

/-- A mantissa of 53 binary digits at most, and all of them unless the exponent is the smallest,
is a size with its exponent as excess. -/
theorem excess_mul {m k : Nat} (hm : m < 2 ^ 53) (hnormal : 2 ^ 52 ≤ m ∨ k = 0) :
    excess (m * 2 ^ k) = k := by
  rcases hnormal with hm52 | rfl
  · refine excess_eq ?_ ?_
    · rw [Nat.add_comm, Nat.pow_add]
      exact Nat.mul_le_mul_right _ hm52
    · rw [Nat.add_comm, Nat.pow_add]
      exact Nat.mul_lt_mul_of_pos_right hm (Nat.two_pow_pos k)
  · rw [Nat.pow_zero, Nat.mul_one]
    exact excess_eq_zero hm

/-- What has 53 binary digits at most, apart from zeros at the end, is a size. -/
theorem representable_mul {m : Nat} (hm : m < 2 ^ 53) (k : Nat) : Representable (m * 2 ^ k) := by
  have hexcess : excess (m * 2 ^ k) ≤ k := by
    rcases Nat.eq_zero_or_pos m with rfl | hpos
    · rw [Nat.zero_mul]
      exact Nat.zero_le k
    · have hlt : m * 2 ^ k < 2 ^ (53 + k) := by
        rw [Nat.pow_add]
        exact Nat.mul_lt_mul_of_pos_right hm (Nat.two_pow_pos k)
      have hlog : (m * 2 ^ k).log2 < 53 + k :=
        (Nat.log2_lt (Nat.pos_iff_ne_zero.mp (Nat.mul_pos hpos (Nat.two_pow_pos k)))).mpr hlt
      simp only [excess]
      omega
  exact Nat.dvd_trans (Nat.pow_dvd_pow 2 hexcess) (Nat.dvd_mul_left _ _)

/-- Rounding gives a size. -/
theorem representable_nearest (n : Nat) : Representable (nearest n) := by
  rcases Nat.eq_or_lt_of_le (halfEven_excess_le n) with hcarry | hlt
  · have hdouble : nearest n = 2 ^ 52 * 2 ^ (excess n + 1) := by
      rw [nearest, hcarry, Nat.pow_succ 2 (excess n)]
      omega
    rw [hdouble]
    exact representable_mul (by decide) _
  · exact representable_mul hlt _

theorem nearest_pos {n : Nat} (h : 0 < n) : 0 < nearest n := by
  have hone : nearest 1 = 1 := by decide
  have hle : nearest 1 ≤ nearest n := nearest_mono h
  omega

/-! ## 4. Taking the same number off again and again -/

/-- Nothing comes between a multiple of `2 ^ k` and the next one. -/
theorem mul_add_le_of_lt {h c k : Nat} (hlt : h * 2 ^ k < c * 2 ^ k) :
    h * 2 ^ k + 2 ^ k ≤ c * 2 ^ k := by
  have hsucc : (h + 1) * 2 ^ k ≤ c * 2 ^ k :=
    Nat.mul_le_mul_right _ (Nat.lt_of_mul_lt_mul_right hlt)
  rwa [Nat.add_mul, Nat.one_mul] at hsucc

/-- A subtraction without effect takes off half of the spacing at most. -/
theorem two_mul_le_of_le_nearest_sub {w y : Nat} (hwy : w ≤ y) (hstuck : y ≤ nearest (y - w)) :
    2 * w ≤ 2 ^ excess (y - w) := by
  obtain ⟨-, hle, -, -⟩ := halfEven_spec (y - w) (excess (y - w))
  rw [nearest] at hstuck
  omega

/-- The size half a spacing below a multiple of the spacing is a tie, and goes to an even
multiple. -/
theorem halfEven_even_of_half {w c k : Nat} (hw : 2 * w = 2 ^ k) (hwc : w ≤ c * 2 ^ k) :
    halfEven (c * 2 ^ k - w) k % 2 = 0 := by
  obtain ⟨hup, hdown, heven, heven'⟩ := halfEven_spec (c * 2 ^ k - w) k
  rcases Nat.lt_or_ge (halfEven (c * 2 ^ k - w) k * 2 ^ k) (c * 2 ^ k) with hlt | hge
  · have := mul_add_le_of_lt hlt
    exact heven (by omega)
  · exact heven' (by omega)

/-- **A subtraction that follows one with an effect has an effect.**  Here `z` is what a subtraction
has left, and taking `w` off `z` makes it smaller. -/
theorem nearest_sub_lt {w x z : Nat} (hx : Representable x) (hwx : w ≤ x)
    (hz : z = nearest (x - w)) (hwz : w ≤ z) (hless : nearest (z - w) < z)
    (hwy : w ≤ nearest (z - w)) :
    nearest (nearest (z - w) - w) < nearest (z - w) := by
  refine Nat.lt_of_not_le fun hstuck => ?_
  have hzx : z ≤ x := by
    have := nearest_mono (Nat.sub_le x w)
    rwa [← hz, nearest_of_representable hx] at this
  -- The spacing at `x - w` is that at `z - w`, or a multiple of it.
  obtain ⟨d, hd⟩ := Nat.exists_eq_add_of_le' (excess_mono (Nat.sub_le_sub_right hzx w))
  obtain ⟨f, hf⟩ : ∃ f, f = halfEven (x - w) (excess (x - w)) := ⟨_, rfl⟩
  obtain ⟨h, hh⟩ : ∃ h, h = halfEven (z - w) (excess (z - w)) := ⟨_, rfl⟩
  have hzf : z = f * 2 ^ d * 2 ^ excess (z - w) := by
    rw [Nat.mul_assoc, ← Nat.pow_add, ← hd, hf]
    exact hz
  have hyh : nearest (z - w) = h * 2 ^ excess (z - w) := by rw [hh, nearest]
  -- Being stuck below `z` bounds `w` by half the spacing, and not being stuck at `z` does so from
  -- the other side.  So `z - w` is a tie, and `h` is even and the mantissa of `z` odd.
  have hsmall := two_mul_le_of_le_nearest_sub hwy hstuck
  have hpow : 2 ^ excess (nearest (z - w) - w) ≤ 2 ^ excess (z - w) :=
    Nat.pow_le_pow_right (by omega) (excess_mono (by omega))
  obtain ⟨hup, -, heven, -⟩ := halfEven_spec (z - w) (excess (z - w))
  rw [← hh] at hup heven
  have hgap : h * 2 ^ excess (z - w) + 2 ^ excess (z - w) ≤
      f * 2 ^ d * 2 ^ excess (z - w) :=
    mul_add_le_of_lt (by rw [← hzf, ← hyh]; exact hless)
  have hhalf : 2 * w = 2 ^ excess (z - w) := by omega
  have hodd : f * 2 ^ d = h + 1 := by
    refine Nat.eq_of_mul_eq_mul_right (Nat.two_pow_pos (excess (z - w))) ?_
    rw [Nat.add_mul, Nat.one_mul]
    omega
  have heven := heven (by omega)
  -- The mantissa of `z` is even nevertheless: as a multiple of the larger spacing at `x - w`, or
  -- because `x - w` is a tie.
  cases d with
  | succ d =>
    rw [Nat.pow_succ, ← Nat.mul_assoc] at hodd
    omega
  | zero =>
    rw [Nat.zero_add] at hd
    obtain ⟨c, hc⟩ : 2 ^ excess (z - w) ∣ x := by
      rw [← hd]
      exact Nat.dvd_trans (Nat.pow_dvd_pow 2 (excess_mono (Nat.sub_le x w))) hx
    have hfeven := halfEven_even_of_half (c := c) hhalf (by rw [Nat.mul_comm, ← hc]; exact hwx)
    rw [Nat.mul_comm, ← hc, ← hd, ← hf] at hfeven
    omega

/-- What is left of a size after a number of subtractions, rounding after each. -/
def countdown (w x : Nat) : Nat → Nat
  | 0 => x
  | n + 1 => nearest (countdown w x n - w)

theorem representable_countdown {w x : Nat} (hx : Representable x) (n : Nat) :
    Representable (countdown w x n) := by
  cases n with
  | zero => exact hx
  | succ n => exact representable_nearest _

theorem countdown_succ_le {w x : Nat} (hx : Representable x) (n : Nat) :
    countdown w x (n + 1) ≤ countdown w x n := by
  have hmono := nearest_mono (Nat.sub_le (countdown w x n) w)
  rwa [nearest_of_representable (representable_countdown hx n)] at hmono

/-- **If the second subtraction has an effect, then all do**, as long as there is enough left. -/
theorem countdown_lt {w x : Nat} (hx : Representable x)
    (hsecond : w < countdown w x 1 → countdown w x 2 < countdown w x 1) (n : Nat)
    (hleft : ∀ m ≤ n, w < countdown w x m) : countdown w x (n + 1) < countdown w x n := by
  induction n with
  | zero =>
    refine Nat.lt_of_le_of_ne (countdown_succ_le hx 0) fun heq => ?_
    have hx0 := hleft 0 (Nat.le_refl 0)
    have hagain : countdown w x 2 = countdown w x 1 := congrArg (fun z => nearest (z - w)) heq
    have := hsecond (heq ▸ hx0)
    omega
  | succ n ih =>
    have hless := ih fun m hm => hleft m (Nat.le_succ_of_le hm)
    have hleft' := Nat.le_of_lt (hleft (n + 1) (Nat.le_refl _))
    cases n with
    | zero => exact hsecond (hleft 1 (Nat.le_refl 1))
    | succ n =>
      exact nearest_sub_lt (representable_countdown hx n)
        (Nat.le_of_lt (hleft n (by omega))) rfl (Nat.le_of_lt (hleft (n + 1) (by omega))) hless
        hleft'

/-- A subtraction without an effect is repeated for ever. -/
theorem countdown_stuck {w x : Nat} (hstuck : countdown w x 2 = countdown w x 1) (n : Nat) :
    countdown w x (n + 1) = countdown w x 1 := by
  induction n with
  | zero => rfl
  | succ n ih => exact (congrArg (fun z => nearest (z - w)) ih).trans hstuck

/-- Subtractions that have an effect come to an end. -/
theorem exists_countdown_le {w x : Nat} (hx : Representable x)
    (hsecond : w < countdown w x 1 → countdown w x 2 < countdown w x 1) :
    ∃ n, countdown w x n ≤ w ∧ ∀ m < n, w < countdown w x m := by
  -- Each subtraction takes off one unit at least, so that there are no more than `x` of them.
  have hbound : ∀ k, (∃ n, countdown w x n ≤ w ∧ ∀ m < n, w < countdown w x m) ∨
      (∀ m < k, w < countdown w x m) ∧ countdown w x k + k ≤ x := by
    intro k
    induction k with
    | zero => exact .inr ⟨fun m hm => absurd hm (Nat.not_lt_zero m), Nat.le_refl x⟩
    | succ k ih =>
      rcases ih with hfound | ⟨hleft, hle⟩
      · exact .inl hfound
      · rcases Nat.lt_or_ge w (countdown w x k) with hlt | hge
        · have hleft' : ∀ m < k + 1, w < countdown w x m := by
            intro m hm
            rcases Nat.lt_succ_iff_lt_or_eq.mp hm with hlt' | rfl
            · exact hleft m hlt'
            · exact hlt
          have hless := countdown_lt hx hsecond k fun m hm => hleft' m (Nat.lt_succ_of_le hm)
          exact .inr ⟨hleft', by omega⟩
        · exact .inl ⟨k, hge, hleft⟩
  rcases hbound (x + 1) with hfound | ⟨-, hle⟩
  · exact hfound
  · omega

end PenPlotter.Binary64
