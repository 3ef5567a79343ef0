import PenPlotter.Text.Bytes

/-!
# Text that is written and read again

A character is written in one to four bytes, and the bytes of a character at the front of a byte
string are read as that character, whatever follows (`Bytes.front_encode`).  So the bytes that a
text is written as are read as the text (`Bytes.text?_toBytes`).
-/

namespace PenPlotter

namespace Bytes

variable {n : Nat} {lead b c d : UInt8} {rest : List UInt8}

/-! ## 1. One byte -/

theorem toNat_ofNat (h : n < 256) : (UInt8.ofNat n).toNat = n := by
  rw [UInt8.toNat_ofNat']
  exact Nat.mod_eq_of_lt h

/-- A tail byte made of six bits. -/
theorem isTail_ofNat (h : n < 64) : isTail (UInt8.ofNat (n + 0x80)) = true := by
  rw [isTail, toNat_ofNat (by omega)]
  simp only [Bool.and_eq_true, decide_eq_true_eq]
  omega

/-- A tail byte carries the six bits that it is made of. -/
theorem tailBits_ofNat (h : n < 64) : tailBits (UInt8.ofNat (n + 0x80)) = n := by
  have hbyte := toNat_ofNat (n := n + 0x80) (by omega)
  exact Nat.sub_eq_of_eq_add hbyte

/-! ## 2. The bytes of one character -/

theorem bne_iff {b k : UInt8} : (b != k) = true ↔ b.toNat ≠ k.toNat := by
  rw [bne_iff_ne, ne_eq, ← UInt8.toNat_inj]

theorem isSecondOfThree_iff : isSecondOfThree lead b = true ↔
    isTail b = true ∧ (lead.toNat = 0xE0 → 0xA0 ≤ b.toNat) ∧
      (lead.toNat = 0xED → b.toNat ≤ 0x9F) := by
  simp only [isSecondOfThree, Bool.and_eq_true, Bool.or_eq_true, bne_iff, decide_eq_true_eq,
    and_assoc, ← Decidable.imp_iff_not_or]
  rfl

theorem isSecondOfFour_iff : isSecondOfFour lead b = true ↔
    isTail b = true ∧ (lead.toNat = 0xF0 → 0x90 ≤ b.toNat) ∧
      (lead.toNat = 0xF4 → b.toNat ≤ 0x8F) := by
  simp only [isSecondOfFour, Bool.and_eq_true, Bool.or_eq_true, bne_iff, decide_eq_true_eq,
    and_assoc, ← Decidable.imp_iff_not_or]
  rfl

theorem front_of_one (h : lead.toNat < 0x80) :
    front lead rest = .char (Char.ofNat lead.toNat) 1 := by
  unfold front
  exact if_pos h

theorem front_of_two (hlow : 0xC2 ≤ lead.toNat) (hhigh : lead.toNat ≤ 0xDF)
    (hb : isTail b = true) :
    front lead (b :: rest) = .char (Char.ofNat ((lead.toNat - 0xC0) * 64 + tailBits b)) 2 := by
  have hlead : 0xC2 ≤ lead.toNat && lead.toNat ≤ 0xDF := by simp [hlow, hhigh]
  unfold front
  exact (if_neg (by omega)).trans ((if_pos hlead).trans (if_pos hb))

theorem front_of_three (hlow : 0xE0 ≤ lead.toNat) (hhigh : lead.toNat ≤ 0xEF)
    (hb : isSecondOfThree lead b = true) (hc : isTail c = true) :
    front lead (b :: c :: rest) =
      .char (Char.ofNat (((lead.toNat - 0xE0) * 64 + tailBits b) * 64 + tailBits c)) 3 := by
  have hone : ¬ lead.toNat < 0x80 := by omega
  have htwo : ¬ (0xC2 ≤ lead.toNat && lead.toNat ≤ 0xDF) := by simp; omega
  have hlead : 0xE0 ≤ lead.toNat && lead.toNat ≤ 0xEF := by simp [hlow, hhigh]
  unfold front
  exact (if_neg hone).trans ((if_neg htwo).trans ((if_pos hlead).trans
    ((if_pos hb).trans (if_pos hc))))

theorem front_of_four (hlow : 0xF0 ≤ lead.toNat) (hhigh : lead.toNat ≤ 0xF4)
    (hb : isSecondOfFour lead b = true) (hc : isTail c = true) (hd : isTail d = true) :
    front lead (b :: c :: d :: rest) =
      .char (Char.ofNat
        ((((lead.toNat - 0xF0) * 64 + tailBits b) * 64 + tailBits c) * 64 + tailBits d)) 4 := by
  have hone : ¬ lead.toNat < 0x80 := by omega
  have htwo : ¬ (0xC2 ≤ lead.toNat && lead.toNat ≤ 0xDF) := by simp; omega
  have hthree : ¬ (0xE0 ≤ lead.toNat && lead.toNat ≤ 0xEF) := by simp; omega
  have hlead : 0xF0 ≤ lead.toNat && lead.toNat ≤ 0xF4 := by simp [hlow, hhigh]
  unfold front
  exact (if_neg hone).trans ((if_neg htwo).trans ((if_neg hthree).trans ((if_pos hlead).trans
    ((if_pos hb).trans ((if_pos hc).trans (if_pos hd))))))

/-- **The bytes of a character are read as the character**, and as many bytes are used up. -/
theorem front_encode (c : Char) (rest : List UInt8) :
    ∃ lead more, String.utf8EncodeChar c = lead :: more ∧
      front lead (more ++ rest) = .char c (more.length + 1) := by
  have hvalid : c.toNat < 0xD800 ∨ 0xDFFF < c.toNat ∧ c.toNat < 0x110000 := c.valid
  have hchar {n : Nat} (h : n = c.toNat) : Char.ofNat n = c := by
    rw [h, Char.ofNat_toNat]
  rw [String.utf8EncodeChar]
  change ∃ lead more, (if c.toNat ≤ 0x7f then [UInt8.ofNat c.toNat]
    else if c.toNat ≤ 0x7ff then
      [UInt8.ofNat (c.toNat / 64 % 0x20 + 0xc0), UInt8.ofNat (c.toNat % 0x40 + 0x80)]
    else if c.toNat ≤ 0xffff then
      [UInt8.ofNat (c.toNat / 4096 % 0x10 + 0xe0), UInt8.ofNat (c.toNat / 64 % 0x40 + 0x80),
        UInt8.ofNat (c.toNat % 0x40 + 0x80)]
    else
      [UInt8.ofNat (c.toNat / 262144 % 0x08 + 0xf0), UInt8.ofNat (c.toNat / 4096 % 0x40 + 0x80),
        UInt8.ofNat (c.toNat / 64 % 0x40 + 0x80), UInt8.ofNat (c.toNat % 0x40 + 0x80)]) =
      lead :: more ∧ _
  have hsix {n : Nat} : n % 64 < 64 := Nat.mod_lt n (by decide)
  split
  · refine ⟨_, _, rfl, ?_⟩
    have hlead := toNat_ofNat (n := c.toNat) (by omega)
    rw [front_of_one (by omega), hlead, hchar rfl]
    rfl
  · split
    · refine ⟨_, _, rfl, ?_⟩
      have hlead := toNat_ofNat (n := c.toNat / 64 % 0x20 + 0xc0) (by omega)
      refine (front_of_two (by omega) (by omega) (isTail_ofNat hsix)).trans ?_
      rw [hlead, tailBits_ofNat hsix, hchar (by omega)]
      rfl
    · split
      · refine ⟨_, _, rfl, ?_⟩
        have hlead := toNat_ofNat (n := c.toNat / 4096 % 0x10 + 0xe0) (by omega)
        have hsecond : isSecondOfThree (UInt8.ofNat (c.toNat / 4096 % 0x10 + 0xe0))
            (UInt8.ofNat (c.toNat / 64 % 0x40 + 0x80)) = true := by
          refine isSecondOfThree_iff.mpr ⟨isTail_ofNat hsix, ?_, ?_⟩ <;>
            rw [hlead, toNat_ofNat (by omega)] <;> omega
        refine (front_of_three (by omega) (by omega) hsecond (isTail_ofNat hsix)).trans ?_
        rw [hlead, tailBits_ofNat hsix, tailBits_ofNat hsix, hchar (by omega)]
        rfl
      · refine ⟨_, _, rfl, ?_⟩
        have hlead := toNat_ofNat (n := c.toNat / 262144 % 0x08 + 0xf0) (by omega)
        have hsecond : isSecondOfFour (UInt8.ofNat (c.toNat / 262144 % 0x08 + 0xf0))
            (UInt8.ofNat (c.toNat / 4096 % 0x40 + 0x80)) = true := by
          refine isSecondOfFour_iff.mpr ⟨isTail_ofNat hsix, ?_, ?_⟩ <;>
            rw [hlead, toNat_ofNat (by omega)] <;> omega
        refine (front_of_four (by omega) (by omega) hsecond (isTail_ofNat hsix)
          (isTail_ofNat hsix)).trans ?_
        rw [hlead, tailBits_ofNat hsix, tailBits_ofNat hsix, tailBits_ofNat hsix, hchar (by omega)]
        rfl

/-! ## 3. All of a text -/

/-- **What a text is written as is read as the text.** -/
theorem text?_toBytes (t : Text) : text? (Text.toBytes t) = some t := by
  induction t with
  | nil => rw [Text.toBytes, List.flatMap_nil, text?]
  | cons c rest ih =>
    obtain ⟨lead, more, hbytes, hfront⟩ := front_encode c (Text.toBytes rest)
    have hcons : Text.toBytes (c :: rest) = lead :: (more ++ Text.toBytes rest) := by
      rw [Text.toBytes, List.flatMap_cons, hbytes]
      rfl
    rw [hcons, text?, hfront]
    simp only [Nat.add_sub_cancel, List.drop_left, ih, Option.map_some]

end Bytes

end PenPlotter
