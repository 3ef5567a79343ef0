import PenPlotter.Number.Amount
import PenPlotter.Proofs.Binary64.Decimal
import PenPlotter.Proofs.Number.Numeral

/-!
# What is written in the shortest notation reads back

The digits of a double are taken from the first grid on which some digits read back as it, and if
there were no such grid, all its digits would be taken; either way they read back
(`Shortest.ofDecimal_digits`).  In positional notation they are a numeral, which says the same
number with the zeros written out (`Numeral.isUnsigned_positional`).  So every amount reads back
from its notation: a double bit by bit, and what is not a number with its sign
(`Amount.read?_text`).
-/

namespace PenPlotter

open Float.Model Float.Model.UnpackedFloat

/-! ## 1. Digits with a point -/

namespace Text

/-- Zeros in front change no number. -/
theorem natValue_zeros_append (k : Nat) (t : Text) :
    natValue (List.replicate k '0' ++ t) = natValue t := by
  rw [natValue, natValue, Nat.ofDigitChars_append, Nat.ofDigitChars_replicate_zero, Nat.mul_zero]

/-- A zero at the end multiplies a number by ten. -/
theorem natValue_append_zeros (t : Text) (k : Nat) :
    natValue (t ++ List.replicate k '0') = natValue t * 10 ^ k := by
  rw [natValue, natValue, Nat.ofDigitChars_append, Nat.ofDigitChars_replicate_zero, Nat.mul_comm]

/-- Whether a text consists of digits with a point among them, which does not come first. -/
def IsPointed (t : Text) : Prop :=
  ∃ whole places : Text, t = whole ++ '.' :: places ∧ whole ≠ [] ∧
    ∀ c ∈ whole ++ places, c.isDigit = true

end Text

namespace Shortest

/-! ## 2. Positional notation -/

/-- What a number `d · 10 ^ k` in positional notation says: the zeros that are written out belong to
the digits, and so does the one behind the point of a whole number. -/
def written (d : Nat) : Int → Nat × Int
  | .ofNat k => (d * 10 ^ k * 10, -1)
  | .negSucc k => (d, .negSucc k)

/-- A number in positional notation is digits with a point among them, which say the number. -/
theorem positional_spec (d : Nat) (k : Int) :
    ∃ whole places : Text, positional d k = whole ++ '.' :: places ∧ whole ≠ [] ∧
      (∀ c ∈ whole ++ places, c.isDigit = true) ∧
      Text.natValue (whole ++ places) = (written d k).1 ∧
      -(places.length : Int) = (written d k).2 := by
  have hzeros (n : Nat) : ∀ c ∈ List.replicate n '0', c.isDigit = true := by
    intro c hc
    rw [List.eq_of_mem_replicate hc]
    rfl
  have hdigits : ∀ c ∈ Text.ofNat d, c.isDigit = true := fun c hc =>
    Text.isDigit_of_mem_ofNat hc
  cases k with
  | ofNat k =>
    refine ⟨Text.ofNat d ++ List.replicate k '0', ['0'], ?_, ?_, ?_, ?_, rfl⟩
    · rw [positional, List.append_assoc]
    · exact List.append_ne_nil_of_left_ne_nil (Text.ofNat_ne_nil d) _
    · simp only [List.forall_mem_append, List.forall_mem_singleton]
      exact ⟨⟨hdigits, hzeros k⟩, rfl⟩
    · have hone : (['0'] : Text) = List.replicate 1 '0' := rfl
      rw [hone, Text.natValue_append_zeros, Text.natValue_append_zeros, Text.natValue_ofNat]
      rfl
  | negSucc k =>
    obtain ⟨padded, hpadded⟩ : ∃ padded,
        padded = List.replicate (k + 2 - (Text.ofNat d).length) '0' ++ Text.ofNat d := ⟨_, rfl⟩
    have hlength : k + 2 ≤ padded.length := by
      rw [hpadded, List.length_append, List.length_replicate]
      omega
    have hvalue : Text.natValue padded = d := by
      rw [hpadded, Text.natValue_zeros_append, Text.natValue_ofNat]
    refine ⟨padded.take (padded.length - (k + 1)), padded.drop (padded.length - (k + 1)), ?_, ?_,
      ?_, ?_, ?_⟩
    · rw [hpadded]
      rfl
    · rw [ne_eq, List.take_eq_nil_iff, not_or]
      exact ⟨by omega, by rintro rfl; exact absurd hlength (by simp)⟩
    · rw [List.take_append_drop, hpadded, List.forall_mem_append]
      exact ⟨hzeros _, hdigits⟩
    · rw [List.take_append_drop, hvalue]
      rfl
    · rw [List.length_drop, written]
      omega

theorem isPointed_positional (d : Nat) (k : Int) : Text.IsPointed (positional d k) := by
  obtain ⟨whole, places, heq, hwhole, hdigits, -, -⟩ := positional_spec d k
  exact ⟨whole, places, heq, hwhole, hdigits⟩

end Shortest

/-- **A number in positional notation is a numeral.** -/
theorem Numeral.isUnsigned_positional (negative : Bool) (d : Nat) (k : Int) :
    IsUnsigned negative (Shortest.positional d k)
      (.decimal negative (Shortest.written d k).1 (Shortest.written d k).2) := by
  obtain ⟨whole, places, heq, hwhole, hdigits, hvalue, hlength⟩ := Shortest.positional_spec d k
  have hne : whole ++ places ≠ [] := List.append_ne_nil_of_left_ne_nil hwhole places
  have h : IsUnsigned negative _ _ := .pointed hne hdigits .absent
  rwa [List.append_nil, Int.zero_sub, ← heq, hvalue, hlength] at h

namespace Shortest

open Binary64

/-! ## 3. Digits that read back -/

variable {x : Float} {s : Sign} {m : Nat} {e : Int} {hm : 0 < m}

/-- A double that is neither zero nor infinite is read from digits that are not all zero, and from
no exponent out of bounds. -/
theorem bounds_of_ofDecimal {d k : Nat} (hx : x.toModel.unpack = .finite .positive m e hm)
    (h : ofDecimal false d k = x) : 0 < d ∧ k ≤ 2 ^ 11 := by
  have hunpack : (Float.Model.pack (UnpackedFloat.ofScientific .binary64 d k)).unpack =
      .finite .positive m e hm := by
    rw [← hx, ← h]
    rfl
  rw [UnpackedFloat.ofScientific] at hunpack
  by_cases hd : d = 0
  · rw [dif_pos hd, unpack_pack (u := .zero .positive) trivial] at hunpack
    cases hunpack
  · rw [dif_neg hd] at hunpack
    refine ⟨Nat.pos_of_ne_zero hd, Nat.le_of_not_lt fun hlarge => ?_⟩
    have hlarge' : (k : Int) > 2 ^ Format.binary64.exponentBits := by
      change (k : Int) > 2 ^ 11
      omega
    rw [if_pos hlarge', unpack_pack (u := .infinity .positive) trivial] at hunpack
    cases hunpack

/-- The zeros that are written out make no difference. -/
theorem ofDecimal_written {d : Nat} {k : Int} (hx : x.toModel.unpack = .finite .positive m e hm)
    (h : ofDecimal false d k = x) :
    ofDecimal false (written d k).1 (written d k).2 = x := by
  cases k with
  | ofNat k =>
    obtain ⟨hd, hk⟩ := bounds_of_ofDecimal hx h
    rw [← h]
    exact congrArg (fun u => Float.ofModel (.pack u)) (ofScientific_mul_ten hd hk)
  | negSucc k => exact h

/-- All digits of a double read back as it. -/
theorem ofDecimal_allDigits (hx : x.toModel.unpack = .finite .positive m e hm) :
    ofDecimal false (allDigits m e).1 (allDigits m e).2 = x := by
  have hcanonical := isCanonical_unpack x.toModel
  rw [hx] at hcanonical
  have hpack : Float.ofModel (.pack (.finite .positive m e hm)) = x := by
    refine eq_of_unpack_eq ?_
    rw [hx]
    exact unpack_pack hcanonical
  rw [← hpack]
  cases e with
  | ofNat k =>
    exact congrArg (fun u => Float.ofModel (.pack u)) (ofScientific_shiftLeft hm hcanonical.1)
  | negSucc k =>
    exact congrArg (fun u => Float.ofModel (.pack u))
      (ofScientific_mul_five_pow hm (Nat.succ_pos k) hcanonical.1)

/-- A neighbour on a grid is taken only if it reads back. -/
theorem readsBack_of_neighbour? {d : Nat} {k : Int} (h : neighbour? x m e k = some d) :
    readsBack x d k = true := by
  simp only [neighbour?] at h
  split at h
  · rename_i hlow
    obtain rfl := Option.some.inj h
    exact ((Bool.and_eq_true _ _).mp hlow).2
  · split at h
    · rename_i hhigh
      obtain rfl := Option.some.inj h
      exact hhigh
    · split at h
      · rename_i hlow
        obtain rfl := Option.some.inj h
        exact hlow
      · cases h

theorem readsBack_of_digits? {d : Nat} {k : Int} (h : digits? x m e = some (d, k)) :
    readsBack x d k = true := by
  obtain ⟨i, -, hi⟩ := List.exists_of_findSome?_eq_some h
  obtain ⟨d', hneighbour, hpair⟩ := Option.map_eq_some_iff.mp hi
  obtain ⟨rfl, rfl⟩ := Prod.mk.inj hpair
  exact readsBack_of_neighbour? hneighbour

/-- **The digits of a positive double read back as it.** -/
theorem ofDecimal_digits (hx : x.toModel.unpack = .finite .positive m e hm) :
    ofDecimal false ((digits? x m e).getD (allDigits m e)).1
      ((digits? x m e).getD (allDigits m e)).2 = x := by
  cases hdigits : digits? x m e with
  | none => exact ofDecimal_allDigits hx
  | some found => exact eq_of_beq_finite hx (readsBack_of_digits? hdigits)

/-- A text with a sign in front of it, of which only a minus is written. -/
def signed : Sign → Text → Text
  | .positive, t => t
  | .negative, t => '-' :: t

/-- A double that is neither zero nor infinite is written in positional notation with its sign, and
reads back from the digits in it. -/
theorem text_of_finite (hx : x.toModel.unpack = .finite s m e hm) :
    ∃ d k, text x = signed s (positional d k) ∧
      ofDecimal (s == .negative) (written d k).1 (written d k).2 = x := by
  have habs : x.abs.toModel.unpack = .finite .positive m e hm := by
    rw [unpack_abs, hx]
    rfl
  have hsize := ofDecimal_written habs (ofDecimal_digits habs)
  refine ⟨((digits? x.abs m e).getD (allDigits m e)).1,
    ((digits? x.abs m e).getD (allDigits m e)).2, ?_, ?_⟩
  · rw [text, hx]
    cases s <;> rfl
  · cases s with
    | positive => exact hsize.trans (eq_of_unpack_eq (habs.trans hx.symm))
    | negative =>
      have hminus : -x.abs = x := by
        refine eq_of_unpack_eq ?_
        rw [unpack_neg, habs, hx]
        rfl
      exact (congrArg (-·) hsize).trans hminus

theorem text_undefined : text undefined = ['N', 'a', 'N'] := by
  have hunpack : undefined.toModel.unpack = .notANumber :=
    unpack_pack (u := .notANumber) trivial
  rw [text, hunpack]

end Shortest

/-! ## 4. Amounts -/

open Binary64 Shortest

/-- **A number in positional notation with a sign is a numeral.** -/
theorem Numeral.read?_signed (s : Sign) (d : Nat) (k : Int) :
    read? (signed s (positional d k)) =
      some (.decimal (s == .negative) (written d k).1 (written d k).2) := by
  cases s with
  | negative => exact read?_eq_some_iff.mpr ⟨_, _, _, .minus, isUnsigned_positional true d k, rfl⟩
  | positive =>
    exact read?_eq_some_iff.mpr ⟨_, _, _, .absent, isUnsigned_positional false d k, rfl⟩

/-- **A double reads back from its shortest notation.** -/
theorem Numeral.exists_read?_text {x : Float} (hx : x.isNaN = false) :
    ∃ n, read? (Shortest.text x) = some n ∧ Amount.ofNumeral n = .ofFloat x := by
  have hnumber : x.toModel.unpack.isNaN = false := hx
  cases hu : x.toModel.unpack with
  | notANumber =>
    rw [hu] at hnumber
    cases hnumber
  | infinity s =>
    have hvalue : Binary64.infinite (s == .negative) = x := by
      refine eq_of_unpack_eq ?_
      rw [hu]
      cases s <;> exact unpack_pack (u := .infinity _) trivial
    rw [Shortest.text, hu]
    cases s with
    | positive => exact ⟨.infinite false, rfl, congrArg Amount.ofFloat hvalue⟩
    | negative => exact ⟨.infinite true, rfl, congrArg Amount.ofFloat hvalue⟩
  | zero s =>
    have hzero : (ofDecimal false 0 (-1)).toModel.unpack = .zero .positive :=
      unpack_pack (u := .zero .positive) trivial
    rw [Shortest.text, hu]
    cases s with
    | positive =>
      exact ⟨.decimal false 0 (-1), rfl,
        congrArg Amount.ofFloat (eq_of_unpack_eq (hzero.trans hu.symm))⟩
    | negative =>
      have hvalue : -ofDecimal false 0 (-1) = x := by
        refine eq_of_unpack_eq ?_
        rw [unpack_neg, hzero, hu]
        rfl
      exact ⟨.decimal true 0 (-1), rfl, congrArg Amount.ofFloat hvalue⟩
  | finite s m e hm =>
    obtain ⟨d, k, htext, hvalue⟩ := text_of_finite hu
    rw [htext]
    exact ⟨_, read?_signed s d k, congrArg Amount.ofFloat hvalue⟩

namespace Amount

/-- **An amount reads back from its notation.** -/
theorem read?_text (a : Amount) : read? a.text = some a := by
  cases a with
  | number x hx =>
    obtain ⟨n, hread, hvalue⟩ := Numeral.exists_read?_text hx
    rw [text, read?, hread, Option.map_some, hvalue, ofFloat, dif_pos hx]
  | undefined negative => cases negative <;> rw [text, Shortest.text_undefined] <;> rfl

/-- An amount is written as one of four words, or as digits with a point among them, perhaps with a
minus sign. -/
theorem text_cases (a : Amount) :
    a.text ∈ ["inf".toList, "-inf".toList, "NaN".toList, "-NaN".toList] ∨
      ∃ t, Text.IsPointed t ∧ (a.text = t ∨ a.text = '-' :: t) := by
  have hzero : Text.IsPointed ['0', '.', '0'] :=
    ⟨['0'], ['0'], rfl, by decide, List.all_eq_true.mp rfl⟩
  cases a with
  | undefined negative =>
    cases negative <;> rw [text, Shortest.text_undefined] <;> exact .inl (by decide)
  | number x hx =>
    rw [text]
    cases hu : x.toModel.unpack with
    | notANumber =>
      rw [Shortest.text, hu]
      exact .inl (List.mem_cons.mpr (.inr (List.mem_cons.mpr (.inr List.mem_cons_self))))
    | infinity s =>
      rw [Shortest.text, hu]
      cases s with
      | positive => exact .inl List.mem_cons_self
      | negative => exact .inl (List.mem_cons.mpr (.inr List.mem_cons_self))
    | zero s =>
      rw [Shortest.text, hu]
      cases s with
      | positive => exact .inr ⟨_, hzero, .inl rfl⟩
      | negative => exact .inr ⟨_, hzero, .inr rfl⟩
    | finite s m e hm =>
      obtain ⟨d, k, htext, -⟩ := text_of_finite hu
      rw [htext]
      cases s with
      | positive => exact .inr ⟨_, isPointed_positional d k, .inl rfl⟩
      | negative => exact .inr ⟨_, isPointed_positional d k, .inr rfl⟩

end Amount

end PenPlotter
