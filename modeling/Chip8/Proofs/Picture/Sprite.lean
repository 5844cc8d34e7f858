import Chip8.Picture.Sprite
import Mathlib.Algebra.Group.Nat.Defs

/-! # Sprites, pixel by pixel

    A sprite row is placed on a line by shifting, to the left up to column 56 and to the right from
    there on. Both shifts are one quotient of natural numbers (`toNat_line`): no shift amount is
    ever reduced, and what leaves the word on the right is gone. From the quotient follows which
    pixels a sprite lights, and a picture is known by its pixels. -/

namespace Chip8

namespace Sprite

/-! ### One row on a line -/

/-- A row in column `x` is the row in column 0, divided by `2 ^ x`. -/
theorem toNat_line (row x : UInt8) :
    (line row x).toNat = row.toNat * 2 ^ 56 / 2 ^ x.toNat := by
  have hrow : row.toNat < 2 ^ 8 := row.toNat_lt
  have hx : x.toNat < 256 := x.toNat_lt
  unfold line
  by_cases hleft : x ≤ 56
  · -- no bit of the row leaves the word, so the shift multiplies
    have hle : x.toNat ≤ 56 := UInt8.le_iff_toNat_le.mp hleft
    have hamount : (56 - x).toNat = 56 - x.toNat := UInt8.toNat_sub_of_le _ _ hleft
    have hfits : row.toNat * 2 ^ (56 - x.toNat) < 2 ^ 64 := by
      calc row.toNat * 2 ^ (56 - x.toNat)
          < 2 ^ 8 * 2 ^ (56 - x.toNat) := Nat.mul_lt_mul_of_pos_right hrow (Nat.two_pow_pos _)
        _ = 2 ^ (8 + (56 - x.toNat)) := (Nat.pow_add 2 8 _).symm
        _ ≤ 2 ^ 64 := Nat.pow_le_pow_right (by decide) (by omega)
    have hsplit : (2 : Nat) ^ 56 = 2 ^ (56 - x.toNat) * 2 ^ x.toNat := by
      rw [← Nat.pow_add, Nat.sub_add_cancel hle]
    rw [if_pos hleft, UInt64.toNat_shiftLeft, UInt8.toNat_toUInt64, UInt8.toNat_toUInt64, hamount,
      Nat.mod_eq_of_lt (show 56 - x.toNat < 64 by omega), Nat.shiftLeft_eq, Nat.mod_eq_of_lt hfits,
      hsplit, ← Nat.mul_assoc, Nat.mul_div_cancel _ (Nat.two_pow_pos _)]
  · have hgt : 56 < x.toNat := by
      have := mt UInt8.le_iff_toNat_le.mpr hleft
      exact Nat.lt_of_not_le this
    have hamount : (x - 56).toNat = x.toNat - 56 :=
      UInt8.toNat_sub_of_le _ _ (UInt8.le_iff_toNat_le.mpr (Nat.le_of_lt hgt))
    have hsplit : (2 : Nat) ^ x.toNat = 2 ^ (x.toNat - 56) * 2 ^ 56 := by
      rw [← Nat.pow_add, Nat.sub_add_cancel (Nat.le_of_lt hgt)]
    rw [if_neg hleft, hsplit, Nat.mul_div_mul_right _ _ (Nat.two_pow_pos 56)]
    by_cases hright : x - 56 < 64
    · have hlt : x.toNat - 56 < 64 := by
        rw [← hamount]
        exact UInt8.lt_iff_toNat_lt.mp hright
      rw [if_pos hright, UInt64.toNat_shiftRight, UInt8.toNat_toUInt64, UInt8.toNat_toUInt64,
        hamount, Nat.mod_eq_of_lt hlt, Nat.shiftRight_eq_div_pow]
    · -- so far right that no pixel is left
      have hge : 64 ≤ x.toNat - 56 := by
        rw [← hamount]
        exact Nat.le_of_not_lt fun hlt => hright (UInt8.lt_iff_toNat_lt.mpr hlt)
      have hgone : row.toNat < 2 ^ (x.toNat - 56) :=
        Nat.lt_of_lt_of_le hrow (Nat.pow_le_pow_right (by decide) (by omega))
      rw [if_neg hright, Nat.div_eq_of_lt hgone]
      rfl

-- two columns stick out on the right of column 58, and all of them of column 64
example : line 0xff 58 = 0x3f ∧ line 0xff 64 = 0 := by decide

/-- Bit `7 - (c - x)` of a row in column `x` is seen in column `c`. -/
theorem testBit_line (row x : UInt8) {c : Nat} (hc : c < 64) :
    (line row x).toNat.testBit (63 - c) =
      (decide (x.toNat ≤ c ∧ c < x.toNat + 8) && row.toNat.testBit (7 - (c - x.toNat))) := by
  have hrow : row.toNat < 2 ^ 8 := row.toNat_lt
  rw [toNat_line, Nat.testBit_div_two_pow, Nat.testBit_mul_two_pow]
  by_cases hlow : x.toNat ≤ c
  · by_cases hhigh : c < x.toNat + 8
    · -- column `c` of the line is bit `7 - (c - x)` of the row
      have hbit : 63 - c + x.toNat - 56 = 7 - (c - x.toNat) := by omega
      simp [hlow, hhigh, hbit, show 56 ≤ 63 - c + x.toNat by omega]
    · simp [hhigh, show ¬ 56 ≤ 63 - c + x.toNat by omega]
  · -- a column left of the sprite would be a bit above the row's eight
    have habove : row.toNat.testBit (63 - c + x.toNat - 56) = false :=
      Nat.testBit_lt_two_pow (Nat.lt_of_lt_of_le hrow (Nat.pow_le_pow_right (by decide) (by omega)))
    simp [hlow, habove]

/-! ### Which pixels a sprite flips -/

theorem covers_iff (sprite : List UInt8) (x y c r : Nat) :
    covers sprite x y c r = true ↔
      y ≤ r ∧ (x ≤ c ∧ c < x + 8) ∧
        ∃ row, sprite[r - y]? = some row ∧ row.toNat.testBit (7 - (c - x)) = true := by
  unfold covers
  by_cases hplace : y ≤ r ∧ x ≤ c ∧ c < x + 8
  · rw [if_pos hplace]
    cases hrow : sprite[r - y]? with
    | none => simp
    | some row => simp [hplace]
  · rw [if_neg hplace]
    constructor
    · intro hfalse
      cases hfalse
    · rintro ⟨hrows, hcolumns, -⟩
      exact absurd ⟨hrows, hcolumns⟩ hplace

end Sprite

namespace Picture

/-! ### Pictures and their pixels -/

/-- A sprite alone on the screen lights what it covers. -/
theorem lit_ofSprite (sprite : List UInt8) (x : UInt8) (y : Nat) {c r : Nat} (hc : c < 64)
    (hr : r < 32) :
    (ofSprite sprite x y).lit c r = Sprite.covers sprite x.toNat y c r := by
  unfold lit Sprite.covers
  rw [dif_pos ⟨hc, hr⟩]
  simp only [ofSprite, Vector.getElem_ofFn]
  by_cases hrow : y ≤ r
  · cases hbyte : sprite[r - y]? with
    | none => simp [hrow]
    | some row =>
      simp only [hrow, if_true, Sprite.testBit_line row x hc, true_and]
      by_cases hcol : x.toNat ≤ c ∧ c < x.toNat + 8 <;> simp [hcol]
  · simp [hrow]

/-- Two pictures with the same lit pixels are one picture. -/
theorem eq_of_lit {p q : Picture} (h : ∀ c < 64, ∀ r < 32, p.lit c r = q.lit c r) : p = q := by
  obtain ⟨rows⟩ := p
  obtain ⟨rows'⟩ := q
  rw [Picture.mk.injEq]
  apply Vector.ext
  intro r hr
  rw [← UInt64.toNat_inj]
  apply Nat.eq_of_testBit_eq
  intro bit
  by_cases hbit : bit < 64
  · -- bit `b` of a row is the pixel in column `63 - b`
    have hpixel := h (63 - bit) (by omega) r hr
    simpa [lit, hr, show 63 - bit < 64 by omega, show 63 - (63 - bit) = bit by omega] using hpixel
  · have hle : 2 ^ 64 ≤ 2 ^ bit := Nat.pow_le_pow_right (by decide) (by omega)
    rw [Nat.testBit_lt_two_pow (Nat.lt_of_lt_of_le rows[r].toNat_lt hle),
      Nat.testBit_lt_two_pow (Nat.lt_of_lt_of_le rows'[r].toNat_lt hle)]

/-! ### Pixels that go dark -/

/-- The bits of one word that are clear in another. -/
theorem testBit_and_not (a b : UInt64) {bit : Nat} (h : bit < 64) :
    (a &&& ~~~ b).toNat.testBit bit = (a.toNat.testBit bit && !b.toNat.testBit bit) := by
  have hsize : UInt64.size - 1 - b.toNat = 2 ^ 64 - (b.toNat + 1) := by
    rw [Nat.sub_sub, Nat.add_comm 1]
    rfl
  rw [UInt64.toNat_and, Nat.testBit_and, UInt64.toNat_not, hsize,
    Nat.testBit_two_pow_sub_succ b.toNat_lt]
  simp [h]

/-- A row loses a pixel exactly if some bit of it is cleared. -/
theorem row_loses_iff (a b : UInt64) :
    a &&& ~~~ b ≠ 0 ↔
      ∃ c < 64, a.toNat.testBit (63 - c) = true ∧ b.toNat.testBit (63 - c) = false := by
  constructor
  · intro h
    have hword : (a &&& ~~~ b).toNat ≠ 0 := fun hzero => h (UInt64.toNat_inj.mp hzero)
    obtain ⟨bit, hbit⟩ := Nat.exists_testBit_of_ne_zero hword
    have hlt : bit < 64 := by
      apply Nat.lt_of_not_le
      intro hle
      have hhigh := Nat.testBit_lt_two_pow
        (Nat.lt_of_lt_of_le (a &&& ~~~ b).toNat_lt (Nat.pow_le_pow_right (by decide) hle))
      rw [hhigh] at hbit
      cases hbit
    rw [testBit_and_not a b hlt, Bool.and_eq_true, Bool.not_eq_true'] at hbit
    refine ⟨63 - bit, by omega, ?_⟩
    rwa [show 63 - (63 - bit) = bit by omega]
  · rintro ⟨c, hc, ha, hb⟩ hzero
    have hlt : 63 - c < 64 := by omega
    have hbit := testBit_and_not a b hlt
    rw [hzero, ha, hb] at hbit
    simp at hbit

theorem loses_iff (p q : Picture) :
    p.loses q = true ↔ ∃ c < 64, ∃ r < 32, p.lit c r = true ∧ q.lit c r = false := by
  unfold loses
  rw [List.any_eq_true]
  constructor
  · rintro ⟨⟨r, hr⟩, -, hrow⟩
    obtain ⟨c, hc, hlit, hdark⟩ := (row_loses_iff _ _).mp (of_decide_eq_true hrow)
    refine ⟨c, hc, r, hr, ?_, ?_⟩
    · unfold lit
      rw [dif_pos ⟨hc, hr⟩]
      exact hlit
    · unfold lit
      rw [dif_pos ⟨hc, hr⟩]
      exact hdark
  · rintro ⟨c, hc, r, hr, hlit, hdark⟩
    unfold lit at hlit hdark
    rw [dif_pos ⟨hc, hr⟩] at hlit hdark
    refine ⟨⟨r, hr⟩, List.mem_finRange _, ?_⟩
    exact decide_eq_true ((row_loses_iff _ _).mpr ⟨c, hc, hlit, hdark⟩)

end Picture

end Chip8
