import Chip8.Text.Hex
import Chip8.Text.Numeral
import Chip8.Text.Utf8

/-! # What is written in digits reads back

    The decimal numeral of a number reads back as the number: it has no sign in front, and a digit
    is none. In bytes it is one byte a digit, as for all characters of ASCII, and reads back from
    these too. Nothing reads numerals in base sixteen, but no two numbers share one. -/

namespace Chip8.Text

/-! ### Numerals -/

section

variable {c : Char} (h : c.isDigit = true)
include h

/-- A digit has one of ten codes, -/
theorem toNat_of_isDigit : 48 ≤ c.toNat ∧ c.toNat ≤ 57 := by
  simp only [Char.isDigit, Bool.and_eq_true, decide_eq_true_eq] at h
  exact h

/-- a value that goes by its code, -/
theorem digit?_of_isDigit : digit? c = some (c.toNat - '0'.toNat) := by
  have hrange : '0' ≤ c ∧ c ≤ '9' := toNat_of_isDigit h
  rw [digit?, if_pos hrange]

/-- and is no plus. -/
theorem ne_plus_of_isDigit : c ≠ '+' := by
  rintro rfl
  cases h

end

/-- Digits behind a number, read from left to right. -/
theorem foldl_digits {cs : List Char} (h : ∀ c ∈ cs, c.isDigit = true) (value : Nat) :
    cs.foldl (fun acc c => do return (← acc) * 10 + (← digit? c)) (some value) =
      some (Nat.ofDigitChars 10 cs value) := by
  induction cs generalizing value with
  | nil => rfl
  | cons c cs ih =>
    rw [List.forall_mem_cons] at h
    rw [List.foldl_cons, digit?_of_isDigit h.1, Nat.ofDigitChars_cons, Nat.mul_comm 10]
    exact ih h.2 _

/-- The digits of a number. -/
theorem isDigit_of_mem_toString {n : Nat} {c : Char} (h : c ∈ (toString n).toList) :
    c.isDigit = true := by
  rw [Nat.toString_eq_repr, Nat.toList_repr] at h
  exact Nat.isDigit_of_mem_toDigits (by decide) (by decide) h

theorem exists_toString_eq_cons (n : Nat) :
    ∃ c cs, (toString n).toList = c :: cs ∧ c.isDigit = true := by
  have hnone : (toString n).toList ≠ [] := by
    rw [Nat.toString_eq_repr, Nat.toList_repr]
    exact Nat.toDigits_ne_nil
  obtain ⟨c, cs, hcs⟩ := List.exists_cons_of_ne_nil hnone
  exact ⟨c, cs, hcs, isDigit_of_mem_toString (hcs ▸ List.mem_cons_self)⟩

theorem natural?_toString (n : Nat) : natural? (toString n).toList = some n := by
  have hsome : ¬ (toString n).toList.isEmpty = true := by simp
  rw [natural?, if_neg hsome, foldl_digits (fun c => isDigit_of_mem_toString), Nat.toString_eq_repr,
    Nat.toList_repr, Nat.ofDigitChars_ten_toDigits]

/-- So different numbers have different numerals. -/
theorem toString_inj {m n : Nat} : toString m = toString n ↔ m = n := by
  refine ⟨fun h => ?_, congrArg toString⟩
  have hvalue := natural?_toString m
  rw [h, natural?_toString] at hvalue
  exact (Option.some.inj hvalue).symm

theorem unsigned?_toString {bits n : Nat} (h : n < 1 <<< bits) :
    unsigned? bits (toString n).toList = some n := by
  obtain ⟨c, cs, hcs, hdigit⟩ := exists_toString_eq_cons n
  have hplus : ¬ (toString n).toList.head? = some '+' := by
    rw [hcs, List.head?_cons, Option.some.injEq]
    exact ne_plus_of_isDigit hdigit
  rw [unsigned?, if_neg hplus, natural?_toString]
  simp [h]

/-! ### Base sixteen -/

/-- The value of a digit in base sixteen. -/
def hexDigit (c : Char) : Nat :=
  if c ≤ '9' then c.toNat - '0'.toNat else c.toNat - 'a'.toNat + 10

theorem hexDigit_digitChar {d : Nat} (h : d < 16) : hexDigit (Nat.digitChar d) = d := by
  decide +revert

/-- The value of digits in base sixteen, read from left to right behind a number. -/
def hexValue (cs : List Char) (value : Nat) : Nat :=
  cs.foldl (fun acc c => acc * 16 + hexDigit c) value

theorem hexValue_append (cs cs' : List Char) (value : Nat) :
    hexValue (cs ++ cs') value = hexValue cs' (hexValue cs value) :=
  List.foldl_append ..

theorem hexValue_toDigits (n : Nat) : hexValue (Nat.toDigits 16 n) 0 = n := by
  -- the last digit is the remainder, and those before it are the numeral of the quotient
  induction n using Nat.strongRecOn with
  | ind n ih =>
    by_cases hlt : n < 16
    · rw [Nat.toDigits_of_lt_base hlt]
      exact (Nat.zero_add _).trans (hexDigit_digitChar hlt)
    · have hdigit : hexDigit (Nat.digitChar (n % 16)) = n % 16 :=
        hexDigit_digitChar (Nat.mod_lt n (by decide))
      rw [Nat.toDigits_of_base_le (by decide) (Nat.le_of_not_lt hlt), hexValue_append,
        ih (n / 16) (by omega)]
      change n / 16 * 16 + hexDigit (Nat.digitChar (n % 16)) = n
      omega

/-- Zeros in front do not count. -/
theorem hexValue_zeros (count : Nat) : hexValue (List.replicate count '0') 0 = 0 := by
  induction count with
  | zero => rfl
  | succ count ih => exact ih

/-- So different numbers have different numerals in base sixteen, however they are padded. -/
theorem hex_inj {width m n : Nat} : hex width m = hex width n ↔ m = n := by
  have hvalue : ∀ n, hexValue (hex width n).toList 0 = n := by
    intro n
    rw [hex, String.toList_ofList, List.leftpad, hexValue_append, hexValue_zeros, hexValue_toDigits]
  refine ⟨fun h => ?_, congrArg (hex width)⟩
  rw [← hvalue m, h, hvalue]

/-! ### Characters of ASCII -/

theorem pieces_of_ascii {cs : List Char} (h : ∀ c ∈ cs, c.toNat < 0x80) :
    Utf8.pieces (cs.map fun c => UInt8.ofNat c.toNat) = cs.map .char := by
  induction cs with
  | nil => simp [Utf8.pieces]
  | cons c cs ih =>
    rw [List.forall_mem_cons] at h
    have hbyte : (UInt8.ofNat c.toNat).toNat = c.toNat := by
      rw [UInt8.toNat_ofNat']
      omega
    have hsmall : UInt8.ofNat c.toNat < 0x80 := by
      rw [UInt8.lt_iff_toNat_lt, hbyte]
      exact h.1
    rw [List.map_cons, Utf8.pieces, Utf8.piece, if_pos hsmall, hbyte, Char.ofNat_toNat]
    simp [ih h.2]

theorem chars?_of_ascii {cs : List Char} (h : ∀ c ∈ cs, c.toNat < 0x80) :
    Utf8.chars? (cs.map fun c => UInt8.ofNat c.toNat) = some cs := by
  rw [Utf8.chars?, pieces_of_ascii h]
  induction cs with
  | nil => rfl
  | cons c cs ih =>
    rw [List.forall_mem_cons] at h
    simp [ih h.2]

end Chip8.Text
