import Chip8.Proofs.Machine.Footprint

/-! # The cells of an instruction

    Four instructions touch memory, and each a row of cells from the index on: drawings and the
    restoring of registers look at some, decimals and the saving of registers replace some. Here the
    footprint of an instruction is taken apart to single cells. What an instruction puts into memory
    does not depend on memory (`outgoing`), and under another memory that holds the same in the
    cells that are looked at, an instruction does the same (`execute_withRam`). -/

namespace Chip8

/-- How many cells from the index on the instruction looks at. -/
def Opcode.reads : Opcode → Nat
  | .draw _ _ n => n.toNat
  | .loadRegisters x => x.toNat % 16 + 1
  | _ => 0

/-- How many cells from the index on the instruction replaces. -/
def Opcode.writes : Opcode → Nat
  | .storeBcd _ => 3
  | .storeRegisters x => x.toNat % 16 + 1
  | _ => 0

namespace Machine

/-- The cell is one of the first `count` from the index on. -/
def Indexed (m : Machine) (count cell : Nat) : Prop :=
  m.index.toNat ≤ cell ∧ cell < m.index.toNat + count

/-- The machine with another memory. -/
def withRam (m : Machine) (ram : Ram) : Machine := { m with ram }

/-- What the instruction puts into memory, unless it is refused. -/
def outgoing (m : Machine) : Opcode → List UInt8
  | .storeBcd x => (Digits.ofByte (m.register x)).toList
  | .storeRegisters x => m.registers.toList.take (x.toNat % 16 + 1)
  | _ => []

variable {m after : Machine} {byte : UInt8} {op : Opcode}

@[simp] theorem length_outgoing (m : Machine) (op : Opcode) :
    (m.outgoing op).length = op.writes := by
  cases op with
  | storeRegisters x => exact m.length_take_registers (by omega)
  | _ => rfl

/-! ### What becomes of memory -/

/-- Nothing but what an instruction puts there gets into memory. -/
theorem ram_of_execute (h : m.execute byte op = .ok after) :
    after.ram = m.ram.written m.index.toNat (m.outgoing op) := by
  cases op with
  | draw x y n =>
    obtain ⟨-, -, rfl⟩ := (execute_draw_ok_iff m after byte x y n).mp h
    rfl
  | storeBcd x =>
    obtain ⟨-, rfl⟩ := execute_storeBcd_ok_iff.mp h
    rfl
  | storeRegisters x =>
    obtain ⟨-, rfl⟩ := execute_storeRegisters_ok_iff.mp h
    rfl
  | loadRegisters x =>
    obtain ⟨-, rfl⟩ := execute_loadRegisters_ok_iff.mp h
    exact m.ram_restored _
  | _ =>
    have hgraft := graft_of_execute .ram h (by simp [Opcode.footprint])
    exact (congrArg Machine.ram hgraft).symm

theorem execute_programAddr (h : m.execute byte op = .ok after) :
    after.ram.programAddr = m.ram.programAddr := by
  rw [ram_of_execute h, Ram.written_programAddr]

/-- What an instruction puts into memory fits there, unless it is refused. -/
theorem fits_of_execute (h : m.execute byte op = .ok after) (hwrites : 0 < op.writes) :
    m.index.toNat + op.writes ≤ 4096 := by
  cases op with
  | storeBcd x => exact (execute_storeBcd_ok_iff.mp h).1
  | storeRegisters x => exact (execute_storeRegisters_ok_iff.mp h).1
  | _ => exact absurd hwrites (Nat.lt_irrefl 0)

/-- What an instruction puts into a memory leaves all cells alone that it does not replace. -/
theorem cell_outgoing_outside (ram : Ram) {cell : Nat} (h : ¬ m.Indexed op.writes cell) :
    (ram.written m.index.toNat (m.outgoing op)).cell cell = ram.cell cell := by
  apply Ram.cell_written_outside
  rw [length_outgoing]
  by_cases hbefore : cell < m.index.toNat
  · exact .inl hbefore
  · exact .inr (Nat.le_of_not_lt fun hbehind => h ⟨Nat.le_of_not_lt hbefore, hbehind⟩)

/-- In the cells that an instruction replaces, what was there before does not count. -/
theorem cell_outgoing_inside (ram : Ram) {cell : Nat} (h : m.execute byte op = .ok after)
    (hcell : m.Indexed op.writes cell) :
    (ram.written m.index.toNat (m.outgoing op)).cell cell = after.ram.cell cell := by
  obtain ⟨k, rfl⟩ := Nat.exists_eq_add_of_le hcell.1
  have hlt : k < op.writes := Nat.lt_of_add_lt_add_left hcell.2
  have hk : k < (m.outgoing op).length := by rwa [length_outgoing]
  have hfits : m.index.toNat + op.writes ≤ 4096 := fits_of_execute h (by omega)
  rw [ram_of_execute h, Ram.cell_written_inside ram hk (by omega),
    Ram.cell_written_inside m.ram hk (by omega)]

/-! ### Under another memory -/

theorem sprite_withRam {ram : Ram} {n : UInt8}
    (h : ∀ k < n.toNat, ram.cell (m.index.toNat + k) = m.ram.cell (m.index.toNat + k)) :
    (m.withRam ram).sprite n = m.sprite n := by
  show ram.bytes _ = m.ram.bytes _
  unfold Ram.bytes
  apply List.map_congr_left
  intro k hk
  rw [List.mem_range, Ram.length_span] at hk
  exact h k hk

theorem drawn_withRam {ram : Ram} {n : UInt8} (x y : UInt8)
    (h : ∀ k < n.toNat, ram.cell (m.index.toNat + k) = m.ram.cell (m.index.toNat + k)) :
    (m.withRam ram).drawn x y n = (m.drawn x y n).withRam ram := by
  unfold drawn
  rw [sprite_withRam h]
  rfl

theorem restored_withRam {ram : Ram} {count : Nat}
    (h : ∀ k < count, ram.cell (m.index.toNat + k) = m.ram.cell (m.index.toNat + k)) :
    (m.withRam ram).restored count = (m.restored count).withRam ram := by
  have hvalue : ∀ r : Fin 16,
      (if r.val < count then ram.cell (m.index.toNat + r.val) else m.registers.get r) =
        if r.val < count then m.ram.cell (m.index.toNat + r.val) else m.registers.get r := by
    intro r
    by_cases hr : r.val < count
    · rw [if_pos hr, if_pos hr, h r.val hr]
    · rw [if_neg hr, if_neg hr]
  simp only [restored, withRam, hvalue]

/-- Another memory can be put in before or after an instruction that memory is nothing to. -/
theorem execute_withRam_of_footprint (byte : UInt8) {ram : Ram} (h : .ram ∉ op.footprint) :
    (m.withRam ram).execute byte op = (m.execute byte op).map (·.withRam ram) := by
  show (m.graft (m.withRam ram) [.ram]).execute byte op =
    (m.execute byte op).map (·.graft (m.withRam ram) [.ram])
  exact execute_graft byte (Opcode.not_mem_singleton h)

/-- Under a memory that agrees in the cells that an instruction looks at, the instruction fails with
    the same fault, or does the same to everything else and puts the same into that memory. -/
theorem execute_withRam (byte : UInt8) {ram : Ram}
    (h : ∀ k < op.reads, ram.cell (m.index.toNat + k) = m.ram.cell (m.index.toNat + k)) :
    (m.withRam ram).execute byte op =
      (m.execute byte op).map (·.withRam (ram.written m.index.toNat (m.outgoing op))) := by
  cases op with
  | draw x y n =>
    have hindex : (m.withRam ram).index = m.index := rfl
    have hregister : ∀ operand, (m.withRam ram).register operand = m.register operand :=
      fun _ => rfl
    simp only [execute, hregister]
    rw [drawSprite_eq, drawSprite_eq, hindex, drawn_withRam _ _ h]
    split
    · rfl
    · split <;> rfl
  | storeBcd x =>
    rw [execute_storeBcd, execute_storeBcd]
    show (if 4096 < m.index.toNat + 3 then _ else _) = _
    split <;> rfl
  | storeRegisters x =>
    rw [execute_storeRegisters, execute_storeRegisters]
    show (if 4096 < m.index.toNat + (x.toNat % 16 + 1) then _ else _) = _
    split <;> rfl
  | loadRegisters x =>
    have hrestored : (m.withRam ram).restored (x.toNat % 16 + 1) = _ := restored_withRam h
    rw [execute_loadRegisters, execute_loadRegisters, hrestored]
    show (if 4096 < m.index.toNat + (x.toNat % 16 + 1) then _ else _) = _
    split <;> rfl
  | _ => exact execute_withRam_of_footprint byte (by simp [Opcode.footprint])

end Machine

end Chip8
