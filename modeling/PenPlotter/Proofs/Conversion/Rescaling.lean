import Mathlib.Tactic.Linarith
import Mathlib.Tactic.Ring
import PenPlotter.Conversion
import PenPlotter.Proofs.Exact.Rational
import PenPlotter.Proofs.Session.Correspondence
import PenPlotter.Proofs.Text.Lines

/-!
# Settings rescale and do nothing else

The settings of a conversion say where its coordinates come to lie.  Which commands it has, and with
which pens, is a matter of the program, unless areas are filled: `convert_rescales`.

The scale does so in proportion.  A scale that is `k` times another one takes each coordinate `k`
times as far, but each of the two is rounded, by half a unit at most, and the first half counts `k`
times (`isRescaled_roundAway`).
-/

namespace PenPlotter

/-! ## 1. One number under two scales -/

/-- A whole number that is `k` times another one, but for the rounding of both. -/
def IsRescaled (k : ℚ) (m n : Int) : Prop :=
  |(n : ℚ) - k * m| ≤ (k + 1) / 2

theorem isRescaled_roundAway {k : ℚ} (hk : 0 < k) (q : ℚ) :
    IsRescaled k (roundAway q) (roundAway (k * q)) := by
  have hfirst : |k * q - k * roundAway q| ≤ k / 2 := by
    rw [← mul_sub, abs_mul, abs_of_pos hk]
    calc k * |q - roundAway q|
        ≤ k * (1 / 2) := mul_le_mul_of_nonneg_left (abs_sub_roundAway_le q) hk.le
      _ = k / 2 := by ring
  have hsecond : |(roundAway (k * q) : ℚ) - k * q| ≤ 1 / 2 := by
    rw [abs_sub_comm]
    exact abs_sub_roundAway_le (k * q)
  calc |(roundAway (k * q) : ℚ) - k * roundAway q|
      ≤ |(roundAway (k * q) : ℚ) - k * q| + |k * q - k * roundAway q| := abs_sub_le _ _ _
    _ ≤ 1 / 2 + k / 2 := add_le_add hsecond hfirst
    _ = (k + 1) / 2 := by ring

theorem isRescaled_zero {k : ℚ} (hk : 0 < k) : IsRescaled k 0 0 := by
  rw [IsRescaled, Int.cast_zero, mul_zero, sub_zero, abs_zero]
  linarith

/-- Device coordinates of a number and of `k` times the number. -/
theorem isRescaled_of_toCoordinate? {k q : ℚ} (hk : 0 < k) {m n : Int}
    (hm : toCoordinate? q = some m) (hn : toCoordinate? (k * q) = some n) : IsRescaled k m n := by
  rw [(toCoordinate?_eq_some_iff.mp hm).2, (toCoordinate?_eq_some_iff.mp hn).2]
  exact isRescaled_roundAway hk q

/-! ## 2. Setups -/

/-- The setup with a scale that is `k` times as large. -/
def Setup.rescale (k : ℚ) (setup : Setup ℚ) : Setup ℚ :=
  { setup with scaling.scale := k * setup.scaling.scale }

/-- The larger scale takes all that a program says `k` times as far. -/
theorem Setup.rescale_corresponds {α : Type} {k : ℚ} (hk : 0 < k) (value : α → ℚ)
    (setup : Setup ℚ) : Setup.Corresponds (IsRescaled k) value value setup (setup.rescale k) where
  place p q q' hq hq' := by
    obtain ⟨hx, hy⟩ := Scaling.place?_eq_some_iff.mp hq
    obtain ⟨hx', hy'⟩ := Scaling.place?_eq_some_iff.mp hq'
    simp only [rescale, mul_left_comm _ k] at hx' hy'
    exact ⟨isRescaled_of_toCoordinate? hk hx hx', isRescaled_of_toCoordinate? hk hy hy'⟩
  displace d e e' he he' := by
    obtain ⟨hx, hy⟩ := Scaling.displace?_eq_some_iff.mp he
    obtain ⟨hx', hy'⟩ := Scaling.displace?_eq_some_iff.mp he'
    simp only [rescale, mul_left_comm _ k] at hx' hy'
    exact ⟨isRescaled_of_toCoordinate? hk hx hx', isRescaled_of_toCoordinate? hk hy hy'⟩
  measure raw r r' hr hr' := by
    simp only [Scaling.measure?, rescale, mul_left_comm _ k] at hr hr'
    exact isRescaled_of_toCoordinate? hk hr hr'

/-- Any two setups correspond, if nothing is asked of the coordinates. -/
theorem Setup.corresponds_true {α K K' : Type} [Scalar K] [Scalar K'] (value : α → K)
    (value' : α → K') (setup : Setup K) (setup' : Setup K') :
    Setup.Corresponds (fun _ _ => True) value value' setup setup' where
  place _ _ _ _ _ := ⟨trivial, trivial⟩
  displace _ _ _ _ _ := ⟨trivial, trivial⟩
  measure _ _ _ _ _ := trivial

/-! ## 3. Conversions -/

/-- **Without fills, the settings rescale and do nothing else.**  Under any two settings with which
a program is converted it has as many commands, of the same kinds and with the same pens.  In exact
arithmetic, whatever rational numbers the numbers of the program stand for, a scale that is `k`
times as large takes each coordinate, displacement and radius `k` times as far, but for `(k + 1) /
2`; so it does with the commands in front of a fault, and without one there are as many. -/
theorem convert_rescales {source : Text}
    (hfill : ∀ text ∈ programTexts source, ¬ "FP".toList <+: text) :
    (∀ settings settings' commands commands', convert source settings = .ok commands →
      convert source settings' = .ok commands' →
      commands.Forall₂ (Command.Corresponds fun _ _ => True) commands') ∧
    ∀ (value : Float → ℚ) (setup : Setup ℚ) (k : ℚ), 0 < k →
      let first := Session.start.runAs value setup source.lines
      let second := Session.start.runAs value (setup.rescale k) source.lines
      (∀ (i : Nat) c d, first.commands[i]? = some c → second.commands[i]? = some d →
        c.Corresponds (fun m n => |(n : ℚ) - k * m| ≤ (k + 1) / 2) d) ∧
      (first.fault = none → second.fault = none →
        first.commands.length = second.commands.length) := by
  refine ⟨?_, ?_⟩
  · intro settings settings' commands commands' h h'
    obtain ⟨-, hfault, rfl⟩ := convert_eq_ok_iff.mp h
    obtain ⟨-, hfault', rfl⟩ := convert_eq_ok_iff.mp h'
    have hsetup := Setup.corresponds_true (id : Float → Float) id settings.setup settings'.setup
    have hruns := (Session.Corresponds.start trivial).runAs hsetup hfill
    rw [Session.runAs_id, Session.runAs_id] at hruns
    exact hruns.forall₂ hfault hfault'
  · intro value setup k hk first second
    have hstart := Session.Corresponds.start (isRescaled_zero hk)
    have hruns : first.Corresponds (IsRescaled k) second :=
      hstart.runAs (Setup.rescale_corresponds hk value setup) hfill
    refine ⟨hruns.commands, ?_⟩
    intro hfault hfault'
    exact (hruns.forall₂ hfault hfault').length_eq

/-- A circle around a point, at the default scale and at three times that: each number is rounded
up, and the centre is off by one unit at the larger scale. -/
theorem convert_rescales_circle :
    let source : Text := "PU;PA6,-6;CI5;".toList
    let setup : Setup ℚ := ⟨⟨4, 4, 0, 0, 1⟩, 2⟩
    let first := Session.start.runAs Binary64.toRational setup source.lines
    let second := Session.start.runAs Binary64.toRational (setup.rescale 3) source.lines
    first.commands = [.move ⟨2, -2⟩, .fullCircle ⟨2, -2⟩ 1] ∧
      second.commands = [.move ⟨5, -5⟩, .fullCircle ⟨5, -5⟩ 4] ∧
      ∀ (i : Nat) c d, first.commands[i]? = some c → second.commands[i]? = some d →
        c.Corresponds (fun m n => |(n : ℚ) - 3 * m| ≤ (3 + 1) / 2) d := by
  intro source setup first second
  have hfill : ∀ text ∈ programTexts source, ¬ "FP".toList <+: text := by decide +kernel
  refine ⟨by decide +kernel, by decide +kernel, ?_⟩
  exact ((convert_rescales hfill).2 Binary64.toRational setup 3 (by decide)).1

end PenPlotter
