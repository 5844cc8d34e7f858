import Chip8.Opcode.Encode
import Mathlib.Algebra.Group.Nat.Defs

/-! # Words in numbers

    Shifts, masks and ors are what words are cut up and put together with. Here each of them is
    written as a quotient, a remainder or a sum, so that whatever is said about the digits of a word
    is arithmetic on natural numbers from then on. -/

namespace Chip8

/-! ### Fields of a word -/

namespace Fields

/-- What a mask of `n` ones leaves of a word. -/
theorem toNat_mask (word mask : UInt16) (n : Nat) (hmask : mask.toNat = 2 ^ n - 1) :
    (word &&& mask).toNat = word.toNat % 2 ^ n := by
  rw [UInt16.toNat_and, hmask, Nat.and_two_pow_sub_one_eq_mod]

/-- What a shift and a mask cut out of a word. -/
theorem toNat_cut (word shift mask : UInt16) (n : Nat) (hmask : mask.toNat = 2 ^ n - 1) :
    ((word >>> shift) &&& mask).toNat = word.toNat / 2 ^ (shift.toNat % 16) % 2 ^ n := by
  rw [toNat_mask _ mask n hmask, UInt16.toNat_shiftRight, Nat.shiftRight_eq_div_pow]

variable (word : UInt16)

theorem toNat_x : (ofWord word).x.toNat = word.toNat / 256 % 16 := by
  have hcut : ((word >>> 8) &&& 0x0f).toNat = word.toNat / 256 % 16 := toNat_cut word 8 0x0f 4 rfl
  simp only [ofWord, UInt16.toNat_toUInt8, hcut]
  omega

theorem toNat_y : (ofWord word).y.toNat = word.toNat / 16 % 16 := by
  have hcut : ((word >>> 4) &&& 0x0f).toNat = word.toNat / 16 % 16 := toNat_cut word 4 0x0f 4 rfl
  simp only [ofWord, UInt16.toNat_toUInt8, hcut]
  omega

theorem toNat_n : (ofWord word).n.toNat = word.toNat % 16 := by
  have hcut : (word &&& 0x0f).toNat = word.toNat % 16 := toNat_mask word 0x0f 4 rfl
  simp only [ofWord, UInt16.toNat_toUInt8, hcut]
  omega

theorem toNat_kk : (ofWord word).kk.toNat = word.toNat % 256 := by
  have hcut : (word &&& 0xff).toNat = word.toNat % 256 := toNat_mask word 0xff 8 rfl
  simp only [ofWord, UInt16.toNat_toUInt8, hcut]
  omega

theorem toNat_nnn : (ofWord word).nnn.toNat = word.toNat % 4096 :=
  toNat_mask word 0x0fff 12 rfl

/-! The fields fit the operands that they are made for. -/

theorem x_lt : (ofWord word).x < 16 := by
  rw [UInt8.lt_iff_toNat_lt, toNat_x]
  exact Nat.mod_lt _ (by decide)

theorem y_lt : (ofWord word).y < 16 := by
  rw [UInt8.lt_iff_toNat_lt, toNat_y]
  exact Nat.mod_lt _ (by decide)

theorem n_lt : (ofWord word).n < 16 := by
  rw [UInt8.lt_iff_toNat_lt, toNat_n]
  exact Nat.mod_lt _ (by decide)

theorem nnn_lt : (ofWord word).nnn < 0x1000 := by
  rw [UInt16.lt_iff_toNat_lt, toNat_nnn]
  exact Nat.mod_lt _ (by decide)

end Fields

namespace Opcode

/-! ### Words that are put together -/

theorem toNat_family (word : UInt16) : (word >>> 12).toNat = word.toNat / 4096 := by
  rw [UInt16.toNat_shiftRight, Nat.shiftRight_eq_div_pow]
  rfl

/-- Numbers whose digits do not overlap are added by an or. -/
theorem toNat_or_of_lt {high low : UInt16} (k : Nat) (hhigh : 2 ^ k ∣ high.toNat)
    (hlow : low.toNat < 2 ^ k) : (high ||| low).toNat = high.toNat + low.toNat := by
  obtain ⟨q, hq⟩ := hhigh
  rw [UInt16.toNat_or, hq, Nat.two_pow_add_eq_or_of_lt hlow]

/-- A byte stays whole under a shift by at most eight places. -/
theorem toNat_shiftLeft_byte (byte : UInt8) (shift : UInt16) (h : shift.toNat ≤ 8) :
    (byte.toUInt16 <<< shift).toNat = 2 ^ shift.toNat * byte.toNat := by
  have hbyte : byte.toNat < 2 ^ 8 := byte.toNat_lt
  have hwhole : byte.toNat * 2 ^ shift.toNat < 2 ^ 16 :=
    calc byte.toNat * 2 ^ shift.toNat
      _ < 2 ^ 8 * 2 ^ shift.toNat := Nat.mul_lt_mul_of_pos_right hbyte (Nat.two_pow_pos _)
      _ ≤ 2 ^ 8 * 2 ^ 8 := Nat.mul_le_mul_left _ (Nat.pow_le_pow_right (by decide) h)
      _ = 2 ^ 16 := by decide
  rw [UInt16.toNat_shiftLeft, UInt8.toNat_toUInt16, Nat.mod_eq_of_lt (by omega : _ < 16),
    Nat.shiftLeft_eq, Nat.mod_eq_of_lt hwhole, Nat.mul_comm]

variable {family nnn : UInt16} {x y n kk : UInt8}

theorem toNat_wordN (hfamily : 4096 ∣ family.toNat) (hnnn : nnn < 0x1000) :
    (wordN family nnn).toNat = family.toNat + nnn.toNat :=
  toNat_or_of_lt 12 hfamily (UInt16.lt_iff_toNat_lt.mp hnnn)

/-- The first two digits of a word with a register. -/
theorem toNat_family_x (hfamily : 4096 ∣ family.toNat) (hx : x < 16) :
    (family ||| (x.toUInt16 <<< 8)).toNat = family.toNat + 256 * x.toNat := by
  have hdigit : x.toNat < 16 := UInt8.lt_iff_toNat_lt.mp hx
  have hshift : (x.toUInt16 <<< 8).toNat = 256 * x.toNat := toNat_shiftLeft_byte x 8 (by decide)
  rw [toNat_or_of_lt 12 hfamily (by omega), hshift]

theorem toNat_wordXK (hfamily : 4096 ∣ family.toNat) (hx : x < 16) :
    (wordXK family x kk).toNat = family.toNat + 256 * x.toNat + kk.toNat := by
  have hhigh := toNat_family_x hfamily hx
  have hlow : kk.toUInt16.toNat < 2 ^ 8 := kk.toNat_lt
  rw [wordXK, toNat_or_of_lt 8 (by omega) hlow, hhigh, UInt8.toNat_toUInt16]

theorem toNat_wordXYN (hfamily : 4096 ∣ family.toNat) (hx : x < 16) (hy : y < 16) (hn : n < 16) :
    (wordXYN family x y n).toNat = family.toNat + 256 * x.toNat + 16 * y.toNat + n.toNat := by
  have hhigh := toNat_family_x hfamily hx
  have hdigit : y.toNat < 16 := UInt8.lt_iff_toNat_lt.mp hy
  have hshift : (y.toUInt16 <<< 4).toNat = 16 * y.toNat := toNat_shiftLeft_byte y 4 (by decide)
  have hlow : n.toUInt16.toNat < 2 ^ 4 := UInt8.lt_iff_toNat_lt.mp hn
  -- three digits are in place, and the last one is added to them
  have hmiddle : (family ||| (x.toUInt16 <<< 8) ||| (y.toUInt16 <<< 4)).toNat =
      family.toNat + 256 * x.toNat + 16 * y.toNat := by
    rw [toNat_or_of_lt 8 (by omega) (by omega), hhigh, hshift]
  rw [wordXYN, toNat_or_of_lt 4 (by omega) hlow, hmiddle, UInt8.toNat_toUInt16]

end Opcode

end Chip8
