import Chip8.Proofs.Interpreter.Outcome
import Mathlib.Data.Nat.Bitwise

/-! # Arithmetic with a flag

    Five instructions compute a byte and a flag: a sum with its carry, two differences, and two
    shifts with the bit that is shifted out. Both operands are read before anything is written, the
    result goes into its register, and the flag is written last. So it makes no difference which of
    the registers coincide, the flag register among them, save that the flag stays where both would
    go. What the bytes and flags stand for is said on natural numbers. -/

namespace Chip8

/-! ## Section 1: Bytes and flags as numbers -/

namespace Machine

theorem toNat_flagByte (flag : Bool) : (flagByte flag).toNat = flag.toNat := by
  cases flag <;> rfl

theorem toNat_flagByte_decide (P : Prop) [Decidable P] :
    (flagByte (decide P)).toNat = if P then 1 else 0 := by
  by_cases h : P <;> simp [h, flagByte]

end Machine

namespace Byte

variable (a b : UInt8)

/-- The byte of a sum and its carry are the sum. -/
theorem toNat_add_carry :
    (a + b).toNat + 256 * (if 255 < a.toNat + b.toNat then 1 else 0) = a.toNat + b.toNat := by
  have ha : a.toNat < 256 := a.toNat_lt
  have hb : b.toNat < 256 := b.toNat_lt
  rw [UInt8.toNat_add]
  split <;> omega

theorem toNat_sub_emod : ((a - b).toNat : Int) = ((a.toNat : Int) - b.toNat) % 256 := by
  have ha : a.toNat < 256 := a.toNat_lt
  have hb : b.toNat < 256 := b.toNat_lt
  rw [UInt8.toNat_sub]
  omega

theorem toNat_half : (a >>> 1).toNat = a.toNat / 2 := by
  rw [UInt8.toNat_shiftRight, Nat.shiftRight_eq_div_pow]
  rfl

theorem toNat_double : (a <<< 1).toNat = 2 * a.toNat % 256 := by
  rw [UInt8.toNat_shiftLeft, Nat.shiftLeft_eq, Nat.mul_comm]
  rfl

/-- A mask of one bit asks for this bit. -/
theorem mask_eq_testBit {mask : UInt8} (bit : Nat) (hmask : mask.toNat = 2 ^ bit) :
    (a &&& mask != 0) = a.toNat.testBit bit := by
  have hand : (a &&& mask).toNat = (a.toNat.testBit bit).toNat * 2 ^ bit := by
    rw [UInt8.toNat_and, hmask, Nat.and_two_pow]
  rw [Bool.eq_iff_iff, bne_iff_ne, ne_eq, ← UInt8.toNat_inj, hand]
  cases a.toNat.testBit bit <;> simp

/-- The bit that goes when a byte is halved. -/
theorem toNat_lowBit : (Machine.flagByte (a &&& 0x01 != 0)).toNat = a.toNat % 2 := by
  rw [mask_eq_testBit a 0 rfl, Machine.toNat_flagByte, Nat.toNat_testBit, Nat.pow_zero,
    Nat.div_one]

/-- The bit that goes when a byte is doubled. -/
theorem toNat_highBit : (Machine.flagByte (a &&& 0x80 != 0)).toNat = a.toNat / 128 := by
  have ha : a.toNat < 256 := a.toNat_lt
  rw [mask_eq_testBit a 7 rfl, Machine.toNat_flagByte, Nat.toNat_testBit]
  exact Nat.mod_eq_of_lt (by omega)

end Byte

/-! ## Section 2: A result and a flag -/

namespace Machine

/-- The registers after a flagged result: the flag first, then the result, then what was there. -/
theorem get_setFlagged (m : Machine) (x value : UInt8) (flag : Bool) (k : Fin 16) :
    (m.setFlagged x value flag).registers.get k =
      if k = flagSlot then flagByte flag
      else if k = slot x then value
      else m.registers.get k := by
  show ((m.registers.set (slot x) value).set flagSlot (flagByte flag))[k.val] = _
  rw [Vector.getElem_set, Vector.getElem_set]
  simp only [← Fin.ext_iff, eq_comm (a := k)]
  rfl

theorem register_eq_get (m : Machine) (x : UInt8) : m.register x = m.registers.get (slot x) := rfl

/-- The flag register is the one that the last nibble names. -/
theorem slot_eq_flagSlot_iff {x : UInt8} : slot x = flagSlot ↔ x.toNat % 16 = 15 := by
  rw [Fin.ext_iff]
  rfl

end Machine

namespace Interpreter

variable {σ : Type}

/-- What an instruction with a flag comes to on register `x`. It is not refused. The flag is what
    the flag register holds, be it register `x` or not; if it is not, register `x` holds what the
    law says, given the flag. Nothing else has changed, and no random byte is taken. -/
structure Flagged (i : Interpreter σ) (x : UInt8) (flag : Nat) (law : (flag value : Nat) → Prop)
    (turn : Turn (Interpreter σ) Unit) : Prop where
  result : turn.result = .ok ()
  flagged : (turn.state.machine.registers.get 15).toNat = flag
  value : x.toNat % 16 ≠ 15 → law flag (turn.state.machine.register x).toNat
  others : ∀ k : Fin 16, k.val ≠ x.toNat % 16 → k ≠ 15 →
    turn.state.machine.registers.get k = i.machine.registers.get k
  rest : turn.state =
    { i with machine := { i.machine with registers := turn.state.machine.registers } }

variable [ByteSource σ] {i : Interpreter σ} {op : Opcode} {x : UInt8}

theorem flagged_of_execute {value : UInt8} {flag : Bool} {number : Nat} {law : Nat → Nat → Prop}
    (hexecute : i.machine.execute (ByteSource.next i.source).1 op =
      .ok (i.machine.setFlagged x value flag))
    (hsource : sourceAfter i.source op = i.source)
    (hflag : (Machine.flagByte flag).toNat = number) (hlaw : law number value.toNat) :
    Flagged i x number law (execute op i) := by
  rw [execute_of_ok hexecute, hsource]
  constructor
  case result => rfl
  case flagged =>
    have hget := i.machine.get_setFlagged x value flag Machine.flagSlot
    rw [if_pos rfl] at hget
    exact (congrArg UInt8.toNat hget).trans hflag
  case value =>
    intro hx
    have hne : Machine.slot x ≠ Machine.flagSlot := mt Machine.slot_eq_flagSlot_iff.mp hx
    rw [Machine.register_eq_get, Machine.get_setFlagged, if_neg hne, if_pos rfl]
    exact hlaw
  case others =>
    intro k hk hother
    have hflagSlot : k ≠ Machine.flagSlot := hother
    have hslot : k ≠ Machine.slot x := fun h => hk (congrArg Fin.val h)
    have hget := i.machine.get_setFlagged x value flag k
    rwa [if_neg hflagSlot, if_neg hslot] at hget
  case rest => rfl

/-- An instruction that only writes a register leaves all others. -/
theorem registers_of_setRegister {value : UInt8}
    (hexecute : i.machine.execute (ByteSource.next i.source).1 op =
      .ok (i.machine.setRegister x value)) :
    (execute op i).result = .ok () ∧
      ∀ k : Fin 16, k.val ≠ x.toNat % 16 →
        (execute op i).state.machine.registers.get k = i.machine.registers.get k := by
  rw [execute_of_ok hexecute]
  refine ⟨rfl, ?_⟩
  intro k hk
  exact Vector.getElem_set_ne (Machine.slot x).isLt k.isLt hk.symm

/-! ## Section 3: The main result -/

/-- Arithmetic is exact whichever registers the operands name, the same one twice or the flag
    register included, with what they held before as `a` and `b`. The flag of a sum is its carry,
    that of a difference is set if something positive is left, and that of a shift is the bit that
    is shifted out. The other instructions that compute a register from registers and immediate
    bytes leave all but their own register alone, and so the flag if it is not that one. -/
theorem arithmetic_is_exact (i : Interpreter σ) (x y : UInt8) :
    let a := (i.machine.register x).toNat
    let b := (i.machine.register y).toNat
    Flagged i x (if 255 < a + b then 1 else 0) (fun flag v => v + 256 * flag = a + b)
      (execute (.addReg x y) i) ∧
    Flagged i x (if b < a then 1 else 0) (fun _ v => (v : Int) = ((a : Int) - b) % 256)
      (execute (.sub x y) i) ∧
    Flagged i x (if a < b then 1 else 0) (fun _ v => (v : Int) = ((b : Int) - a) % 256)
      (execute (.subReverse x y) i) ∧
    Flagged i x (a % 2) (fun flag v => 2 * v + flag = a) (execute (.shiftRight x) i) ∧
    Flagged i x (a / 128) (fun flag v => v + 256 * flag = 2 * a) (execute (.shiftLeft x) i) ∧
    ∀ kk, ∀ op ∈ [Opcode.addImm x kk, .or x y, .and x y, .xor x y, .loadReg x y, .loadImm x kk],
      (execute op i).result = .ok () ∧
      ∀ k : Fin 16, k.val ≠ x.toNat % 16 →
        (execute op i).state.machine.registers.get k = i.machine.registers.get k := by
  intro a b
  let u := i.machine.register x
  let v := i.machine.register y
  have ha : u.toNat < 256 := u.toNat_lt
  refine ⟨?_, ?_, ?_, ?_, ?_, ?_⟩
  · exact flagged_of_execute rfl rfl (Machine.toNat_flagByte_decide _) (Byte.toNat_add_carry u v)
  · exact flagged_of_execute rfl rfl (Machine.toNat_flagByte_decide _) (Byte.toNat_sub_emod u v)
  · exact flagged_of_execute rfl rfl (Machine.toNat_flagByte_decide _) (Byte.toNat_sub_emod v u)
  · refine flagged_of_execute rfl rfl (Byte.toNat_lowBit u) ?_
    rw [Byte.toNat_half]
    show 2 * (u.toNat / 2) + u.toNat % 2 = u.toNat
    omega
  · refine flagged_of_execute rfl rfl (Byte.toNat_highBit u) ?_
    rw [Byte.toNat_double]
    show 2 * u.toNat % 256 + 256 * (u.toNat / 128) = 2 * u.toNat
    omega
  · intro kk op hop
    simp only [List.mem_cons, List.not_mem_nil, or_false] at hop
    rcases hop with rfl | rfl | rfl | rfl | rfl | rfl
    all_goals exact registers_of_setRegister rfl

end Interpreter

end Chip8
