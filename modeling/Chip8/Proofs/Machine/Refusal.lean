import Chip8.Machine.Execute
import Chip8.Proofs.Ram.Access

/-! # When an instruction is refused

    `refusal?` is the table of everything that can keep an instruction from happening: the stack at
    either end, a key above 15, memory past its last cell and rows below the screen. The parts of
    `execute` that can fail are first put in closed form, one test and one result each; then
    `execute` is shown to fail exactly where the table says so, and with the fault it names. -/

namespace Chip8

/-! ## Section 1: Pictures that stay -/

namespace Picture

theorem ofSprite_nil (x : UInt8) (y : Nat) : ofSprite [] x y = blank := by
  simp only [ofSprite, blank, mk.injEq]
  apply Vector.ext
  intro r hr
  simp

@[simp] theorem xor_blank (p : Picture) : p.xor blank = p := by
  obtain ⟨rows⟩ := p
  simp only [xor, blank, mk.injEq]
  apply Vector.ext
  intro r hr
  simp

@[simp] theorem loses_self (p : Picture) : p.loses p = false := by
  simp [loses]

end Picture

namespace Machine

/-! ## Section 2: Closed forms -/

/-- The rows of a sprite of `n` rows, as memory holds them from the index on. -/
def sprite (m : Machine) (n : UInt8) : List UInt8 :=
  m.ram.bytes ⟨m.index.toNat, m.index.toNat + n.toNat⟩

@[simp] theorem length_sprite (m : Machine) (n : UInt8) : (m.sprite n).length = n.toNat := by
  simp [sprite]

/-- The machine after a drawing that is not refused: the sprite is flipped into the picture, and the
    flag tells whether a lit pixel went dark. -/
def drawn (m : Machine) (x y n : UInt8) : Machine :=
  let after := m.picture.xor (Picture.ofSprite (m.sprite n) x y.toNat)
  { m with picture := after }.setFlag (m.picture.loses after)

/-- The machine with `data` in memory from the index on. -/
def stored (m : Machine) (data : List UInt8) : Machine :=
  { m with ram := m.ram.written m.index.toNat data }

/-- The machine with its first `count` registers read from the index on. -/
def restored (m : Machine) (count : Nat) : Machine :=
  { m with registers := Vector.ofFn fun r =>
      if r.val < count then m.ram.cell (m.index.toNat + r.val) else m.registers.get r }

@[simp] theorem index_restored (m : Machine) (count : Nat) :
    (m.restored count).index = m.index := by
  simp only [restored]

@[simp] theorem ram_restored (m : Machine) (count : Nat) : (m.restored count).ram = m.ram := by
  simp only [restored]

theorem leave_of_depth {m : Machine} {top : Nat} (hdepth : m.depth = top + 1) (htop : top < 16) :
    m.leave = .ok { m with depth := top, pc := m.stack[top] } := by
  unfold leave
  rw [hdepth]
  simp [htop]

theorem key_of_lt {number : UInt8} (h : number.toNat < 16) :
    key number = .ok ⟨number.toNat, h⟩ := by
  simp [key, h]

theorem key_of_gt {number : UInt8} (h : 15 < number.toNat) :
    key number = .error (.invalidKey number) := by
  have hge : ¬ number.toNat < 16 := by omega
  simp [key, hge]

/-- The machine after a key went down, the number that it has as a byte being `number`. -/
def pressed (m : Machine) (number : UInt8) (k : Fin 16) : Machine :=
  match m.mode with
  | .running => m.setKey k true
  | .awaitingKey r =>
    { (m.setKey k true).setRegister r number with mode := .running }

theorem keyDown_eq (m : Machine) (number : UInt8) :
    m.keyDown number = (key number >>= fun k => .ok (m.pressed number k)) := by
  unfold keyDown pressed
  cases m.mode <;> rfl

/-- Whether it was parked or not, a machine runs after a key went down. -/
@[simp] theorem pressed_mode (m : Machine) (number : UInt8) (k : Fin 16) :
    (m.pressed number k).mode = .running := by
  unfold pressed
  cases hmode : m.mode with
  | running => exact hmode
  | awaitingKey r => rfl

theorem keyDown_ok_iff {m after : Machine} {number : UInt8} :
    m.keyDown number = .ok after ↔
      ∃ h : number.toNat < 16, after = m.pressed number ⟨number.toNat, h⟩ := by
  rw [keyDown_eq]
  by_cases h : number.toNat < 16
  · rw [key_of_lt h]
    simp [h, bind, Except.bind, eq_comm]
  · rw [key_of_gt (by omega)]
    simp [h, bind, Except.bind]

theorem keyUp_ok_iff {m after : Machine} {number : UInt8} :
    m.keyUp number = .ok after ↔
      ∃ h : number.toNat < 16, after = m.setKey ⟨number.toNat, h⟩ false := by
  unfold keyUp
  by_cases h : number.toNat < 16
  · rw [key_of_lt h]
    simp [h, bind, Except.bind, pure, Except.pure, eq_comm]
  · rw [key_of_gt (by omega)]
    simp [h, bind, Except.bind]

theorem store_eq (m : Machine) (data : List UInt8) (h : data.length ≤ 16) :
    m.store data =
      if 4096 < m.index.toNat + data.length then .error (Ram.outside m.index)
      else .ok (m.stored data) := by
  have hindex : m.index.toNat < 65536 := m.index.toNat_lt
  unfold store
  rw [Ram.write_eq m.ram m.index data (by omega)]
  split <;> rfl

theorem lowRegisters_eq (m : Machine) {count : Nat} (h : count ≤ 16) :
    m.lowRegisters count = .ok (m.registers.toList.take count) := by
  have hcount : ¬ registerCount < count := by simp only [registerCount]; omega
  simp only [lowRegisters, hcount, if_false]

theorem restore_eq (m : Machine) {count : Nat} (h : count ≤ 16) :
    m.restore count =
      if 4096 < m.index.toNat + count then .error (Ram.outside m.index)
      else .ok (m.restored count) := by
  have hindex : m.index.toNat < 65536 := m.index.toNat_lt
  have hlen : (UInt64.ofNat count).toNat = count := by
    rw [UInt64.toNat_ofNat']
    exact Nat.mod_eq_of_lt (by omega)
  have hcount : ¬ registerCount < count := by simp only [registerCount]; omega
  unfold restore
  -- the slice has as many bytes as there are registers to fill
  rw [Ram.slice_eq m.ram m.index _ (by rw [hlen]; omega), hlen]
  by_cases hend : 4096 < m.index.toNat + count
  · simp only [hend, if_true]
    rfl
  · simp only [hend, if_false, bind, Except.bind, setLowRegisters, hcount, Ram.length_bytes,
      Ram.length_span, ne_eq, not_true_eq_false, restored, Except.ok.injEq, Machine.mk.injEq,
      and_true]
    congr 1
    funext r
    rw [Ram.getElem?_bytes]
    split <;> rfl

/-- The memory check of a drawing. -/
theorem slice_sprite (m : Machine) (n : UInt8) :
    m.ram.slice m.index n.toUInt64 =
      if 4096 < m.index.toNat + n.toNat then .error (Ram.outside m.index)
      else .ok (m.sprite n) := by
  have hindex : m.index.toNat < 65536 := m.index.toNat_lt
  have hn : n.toNat < 256 := n.toNat_lt
  rw [Ram.slice_eq m.ram m.index _ (by rw [UInt8.toNat_toUInt64]; omega), UInt8.toNat_toUInt64]
  rfl

/-- The row check of a drawing. -/
theorem stamp_sprite (m : Machine) (x y n : UInt8) (h : y.toNat + n.toNat ≤ 32) :
    m.picture.stamp (m.sprite n) x y.toNat =
      .ok (m.picture.xor (Picture.ofSprite (m.sprite n) x y.toNat),
        m.picture.loses (m.picture.xor (Picture.ofSprite (m.sprite n) x y.toNat))) := by
  have hrow : ¬ 32 < y.toNat + n.toNat := by omega
  simp only [Picture.stamp, length_sprite, Picture.height, gt_iff_lt, hrow, if_false]

theorem drawSprite_eq (m : Machine) (x y n : UInt8) :
    m.drawSprite x y n =
      if 4096 < m.index.toNat + n.toNat then .error (Ram.outside m.index)
      else if 0 < n.toNat ∧ 32 < y.toNat + n.toNat then
        .error (.outOfBounds .displayRow (y.toNat + n.toNat - 1))
      else .ok (m.drawn x y n) := by
  unfold drawSprite
  rw [slice_sprite]
  by_cases hend : 4096 < m.index.toNat + n.toNat
  · simp only [hend, if_true]
    rfl
  by_cases hzero : n.toNat = 0
  · -- the empty sprite is a blank picture, which flips nothing and darkens nothing
    have hnil : m.sprite n = [] := List.eq_nil_of_length_eq_zero (by rw [length_sprite, hzero])
    have hpos : ¬ 0 < n.toNat := by omega
    simp only [hend, if_false, bind, Except.bind, hnil, List.isEmpty_nil, if_true, hpos, false_and,
      drawn, Picture.ofSprite_nil, Picture.xor_blank, Picture.loses_self]
    rfl
  have hsome : (m.sprite n).isEmpty = false := by
    rw [List.isEmpty_eq_false_iff]
    intro hnil
    exact hzero (by rw [← length_sprite m n, hnil, List.length_nil])
  have hpos : 0 < n.toNat := by omega
  by_cases hrow : 32 < y.toNat + n.toNat
  · simp only [hend, if_false, bind, Except.bind, hsome, Bool.false_eq_true, length_sprite,
      Picture.height, gt_iff_lt, hrow, hpos, and_self, if_true]
    rfl
  · simp only [hend, if_false, bind, Except.bind, hsome, Bool.false_eq_true, length_sprite,
      Picture.height, gt_iff_lt, hrow, and_false, stamp_sprite m x y n (by omega)]
    rfl

theorem execute_draw_ok_iff (m after : Machine) (byte x y n : UInt8) :
    m.execute byte (.draw x y n) = .ok after ↔
      m.index.toNat + n.toNat ≤ 4096 ∧
        (0 < n.toNat → (m.register y).toNat + n.toNat ≤ 32) ∧
        after = m.drawn (m.register x) (m.register y) n := by
  simp only [execute, drawSprite_eq]
  constructor
  · intro h
    by_cases hend : 4096 < m.index.toNat + n.toNat
    · rw [if_pos hend] at h
      cases h
    rw [if_neg hend] at h
    by_cases hrow : 0 < n.toNat ∧ 32 < (m.register y).toNat + n.toNat
    · rw [if_pos hrow] at h
      cases h
    · rw [if_neg hrow, Except.ok.injEq] at h
      exact ⟨by omega, by omega, h.symm⟩
  · rintro ⟨hend, hrow, rfl⟩
    rw [if_neg (by omega), if_neg (by omega)]

theorem length_take_registers (m : Machine) {count : Nat} (h : count ≤ 16) :
    (m.registers.toList.take count).length = count := by
  rw [List.length_take, Vector.length_toList]
  omega

theorem execute_storeBcd (m : Machine) (byte x : UInt8) :
    m.execute byte (.storeBcd x) =
      if 4096 < m.index.toNat + 3 then .error (Ram.outside m.index)
      else .ok (m.stored (Digits.ofByte (m.register x)).toList) :=
  store_eq m _ (by simp [Digits.toList])

theorem execute_storeRegisters (m : Machine) (byte x : UInt8) :
    m.execute byte (.storeRegisters x) =
      if 4096 < m.index.toNat + (x.toNat % 16 + 1) then .error (Ram.outside m.index)
      else .ok (m.stored (m.registers.toList.take (x.toNat % 16 + 1))) := by
  have hle : x.toNat % 16 + 1 ≤ 16 := by omega
  have hlen := m.length_take_registers hle
  -- the operand names at most sixteen registers, so there are as many values as it asks for
  have hstore := store_eq m (m.registers.toList.take (x.toNat % 16 + 1)) (by omega)
  rw [hlen] at hstore
  rw [← hstore]
  simp only [execute, slot, lowRegisters_eq m hle]
  rfl

theorem execute_loadRegisters (m : Machine) (byte x : UInt8) :
    m.execute byte (.loadRegisters x) =
      if 4096 < m.index.toNat + (x.toNat % 16 + 1) then .error (Ram.outside m.index)
      else .ok (m.restored (x.toNat % 16 + 1)) :=
  restore_eq m (by omega)

theorem execute_storeBcd_ok_iff {m after : Machine} {byte x : UInt8} :
    m.execute byte (.storeBcd x) = .ok after ↔
      m.index.toNat + 3 ≤ 4096 ∧ after = m.stored (Digits.ofByte (m.register x)).toList := by
  rw [execute_storeBcd, ← Nat.not_lt]
  split <;> simp [*, eq_comm]

theorem execute_storeRegisters_ok_iff {m after : Machine} {byte x : UInt8} :
    m.execute byte (.storeRegisters x) = .ok after ↔
      m.index.toNat + (x.toNat % 16 + 1) ≤ 4096 ∧
        after = m.stored (m.registers.toList.take (x.toNat % 16 + 1)) := by
  rw [execute_storeRegisters, ← Nat.not_lt]
  split <;> simp [*, eq_comm]

theorem execute_loadRegisters_ok_iff {m after : Machine} {byte x : UInt8} :
    m.execute byte (.loadRegisters x) = .ok after ↔
      m.index.toNat + (x.toNat % 16 + 1) ≤ 4096 ∧ after = m.restored (x.toNat % 16 + 1) := by
  rw [execute_loadRegisters, ← Nat.not_lt]
  split <;> simp [*, eq_comm]

/-! ## Section 3: The table -/

/-- The fault that keeps an instruction from happening, if one does. -/
def refusal? (m : Machine) : Opcode → Option Fault
  | .ret => if m.depth = 0 then some .stackUnderflow else none
  | .call _ => if m.depth = 16 then some .stackOverflow else none
  | .skipKeyPressed x | .skipKeyNotPressed x =>
    if 15 < (m.register x).toNat then some (.invalidKey (m.register x)) else none
  | .storeBcd _ =>
    if 4096 < m.index.toNat + 3 then some (.outOfBounds .memory (max m.index.toNat 4096)) else none
  | .storeRegisters x | .loadRegisters x =>
    if 4096 < m.index.toNat + (x.toNat % 16 + 1) then
      some (.outOfBounds .memory (max m.index.toNat 4096))
    else none
  | .draw _ y n =>
    if 4096 < m.index.toNat + n.toNat then some (.outOfBounds .memory (max m.index.toNat 4096))
    else if 0 < n.toNat ∧ 32 < (m.register y).toNat + n.toNat then
      some (.outOfBounds .displayRow ((m.register y).toNat + n.toNat - 1))
    else none
  | _ => none

/-! ## Section 4: The table is exact

    One lemma for each kind of instruction that can fail, then all instructions at once. -/

variable {m : Machine}

theorem leave_error_iff (h : m.depth ≤ 16) (fault : Fault) :
    m.leave = .error fault ↔ m.refusal? .ret = some fault := by
  simp only [refusal?]
  cases hdepth : m.depth with
  | zero => simp [leave, hdepth]
  | succ top => simp [leave_of_depth hdepth (by omega)]

theorem enter_error_iff (h : m.depth ≤ 16) (target : UInt16) (fault : Fault) :
    m.enter target = .error fault ↔ m.refusal? (.call target) = some fault := by
  simp only [refusal?]
  by_cases hfull : m.depth = 16
  · simp [enter, hfull]
  · have hroom : m.depth < 16 := by omega
    simp [enter, hfull, hroom]

/-- Whatever is done with a key, only a number above 15 is refused. -/
theorem key_bind_error_iff (number : UInt8) (f : Fin 16 → Machine) (fault : Fault) :
    (key number >>= fun k => .ok (f k)) = .error fault ↔
      15 < number.toNat ∧ fault = .invalidKey number := by
  by_cases h : 15 < number.toNat
  · rw [key_of_gt h]
    simp [h, bind, Except.bind, eq_comm]
  · rw [key_of_lt (by omega)]
    simp [h, bind, Except.bind]

theorem keyDown_error_iff (number : UInt8) (fault : Fault) :
    m.keyDown number = .error fault ↔ 15 < number.toNat ∧ fault = .invalidKey number := by
  rw [keyDown_eq]
  exact key_bind_error_iff number _ fault

theorem keyUp_error_iff (number : UInt8) (fault : Fault) :
    m.keyUp number = .error fault ↔ 15 < number.toNat ∧ fault = .invalidKey number :=
  key_bind_error_iff number _ fault

theorem skipOnKey_error_iff (x : UInt8) (f : Fin 16 → Machine) (fault : Fault) :
    (key (m.register x) >>= fun k => .ok (f k)) = .error fault ↔
      m.refusal? (.skipKeyPressed x) = some fault := by
  rw [key_bind_error_iff]
  simp [refusal?, eq_comm]

/-- On a machine whose stack is not overfull, an instruction fails exactly where the table says so
    and with the fault that the table names. -/
theorem execute_error_iff (h : m.depth ≤ 16) (byte : UInt8) (op : Opcode) (fault : Fault) :
    m.execute byte op = .error fault ↔ m.refusal? op = some fault := by
  cases op with
  | ret => exact leave_error_iff h fault
  | call nnn => exact enter_error_iff h nnn fault
  | draw x y n =>
    simp only [execute, drawSprite_eq, refusal?, Ram.outside]
    split
    · simp
    · split <;> simp
  | skipKeyPressed x | skipKeyNotPressed x => exact skipOnKey_error_iff x _ fault
  | storeBcd x =>
    rw [execute_storeBcd]
    simp only [refusal?, Ram.outside]
    split <;> simp
  | storeRegisters x =>
    rw [execute_storeRegisters]
    simp only [refusal?, Ram.outside]
    split <;> simp
  | loadRegisters x =>
    rw [execute_loadRegisters]
    simp only [refusal?, Ram.outside]
    split <;> simp
  | _ => simp [execute, refusal?]

end Machine

end Chip8
