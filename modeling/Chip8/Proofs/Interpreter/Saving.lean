import Chip8.Proofs.Interpreter.Latch
import Chip8.Proofs.Machine.Cells

/-! # Saved registers come back

    One instruction saves the first registers to memory, from the index on, and another restores
    them from there. Between the two, a program may do whatever it likes as long as it neither moves
    the index nor writes memory; five instructions do one or the other. What was saved is then still
    where the restoring looks for it, and fewer registers can be restored than were saved. The other
    way round, registers that were just restored are saved over themselves. -/

namespace Chip8

/-- Does the instruction leave the index and memory as they are, if it does not fail? -/
def Opcode.sparesSaved : Opcode → Bool
  | .loadIndex _ | .addIndex _ | .loadDigit _ | .storeBcd _ | .storeRegisters _ => false
  | _ => true

namespace Machine

/-! ## Section 1: Saving and restoring -/

variable {m after : Machine} {byte x : UInt8} {op : Opcode}

/-- The `k`th of the first registers. -/
theorem getElem_take_registers (m : Machine) {count k : Nat} (hk : k < 16)
    (h : k < (m.registers.toList.take count).length) :
    (m.registers.toList.take count)[k] = m.registers.get ⟨k, hk⟩ := by
  rw [List.getElem_take, Vector.getElem_toList]
  rfl

theorem cell_stored_registers {count k : Nat} (hcount : count ≤ 16) (hk : k < count)
    (hfits : m.index.toNat + count ≤ 4096) :
    (m.stored (m.registers.toList.take count)).ram.cell (m.index.toNat + k) =
      m.registers.get ⟨k, by omega⟩ := by
  have hlength : k < (m.registers.toList.take count).length := by
    rwa [m.length_take_registers hcount]
  exact (Ram.cell_written_inside m.ram hlength (by omega)).trans
    (m.getElem_take_registers (by omega) hlength)

/-- A restored register holds its cell, and every other what it held. -/
theorem get_restored (m : Machine) (count : Nat) (k : Fin 16) :
    (m.restored count).registers.get k =
      if k.val < count then m.ram.cell (m.index.toNat + k.val) else m.registers.get k := by
  unfold restored
  exact Vector.getElem_ofFn k.isLt

/-- Registers that were just restored are saved over themselves. -/
theorem execute_store_restored (byte : UInt8) (h : m.index.toNat + (x.toNat % 16 + 1) ≤ 4096) :
    (m.restored (x.toNat % 16 + 1)).execute byte (.storeRegisters x) =
      .ok (m.restored (x.toNat % 16 + 1)) := by
  let restored := m.restored (x.toNat % 16 + 1)
  have hheld : restored.ram.written restored.index.toNat
      (restored.registers.toList.take (x.toNat % 16 + 1)) = restored.ram := by
    apply Ram.written_held
    intro k hk
    have hlt : k < x.toNat % 16 + 1 := by
      rwa [restored.length_take_registers (by omega)] at hk
    rw [getElem_take_registers _ (by omega) hk, get_restored, if_pos hlt, ram_restored,
      index_restored]
  rw [execute_storeRegisters_ok_iff, index_restored]
  refine ⟨h, ?_⟩
  show restored = restored.stored _
  unfold stored
  rw [hheld]

/-! ## Section 2: What is saved stays -/

/-- The machine afterwards has the index and the memory from before. -/
structure KeepsSaved (m after : Machine) : Prop where
  index : after.index = m.index
  ram : after.ram = m.ram

theorem KeepsSaved.of_graft (h : after.graft m [.index, .ram] = after) : m.KeepsSaved after :=
  ⟨(congrArg Machine.index h).symm, (congrArg Machine.ram h).symm⟩

theorem index_of_execute (h : m.execute byte op = .ok after) (hop : op.sparesSaved = true) :
    after.index = m.index := by
  cases op with
  | loadIndex | addIndex | loadDigit | storeBcd | storeRegisters => cases hop
  -- these two go by the index, and leave it
  | draw x y n =>
    obtain ⟨-, -, rfl⟩ := (execute_draw_ok_iff m after byte x y n).mp h
    rfl
  | loadRegisters x =>
    obtain ⟨-, rfl⟩ := execute_loadRegisters_ok_iff.mp h
    exact m.index_restored _
  | _ =>
    have hgraft := graft_of_execute .index h (by simp [Opcode.footprint])
    exact (congrArg Machine.index hgraft).symm

theorem KeepsSaved.execute (h : m.execute byte op = .ok after) (hop : op.sparesSaved = true) :
    m.KeepsSaved after where
  index := index_of_execute h hop
  ram := by
    have hnothing : m.outgoing op = [] := by
      cases op with
      | storeBcd | storeRegisters => cases hop
      | _ => rfl
    rw [ram_of_execute h, hnothing]
    rfl

end Machine

namespace Interpreter

variable {σ : Type} [ByteSource σ] {i j : Interpreter σ} {operation : Operation}
  {result : Except Fault (Option Nat)}

/-- All operations but loads, and but the instructions named above, leave index and memory alone. -/
theorem Outcome.keepsSaved (ho : Outcome i operation result j)
    (hload : operation.isLoad = false)
    (hspares : ∀ op ∈ attempted? i operation, op.sparesSaved = true) :
    i.machine.KeepsSaved j.machine := by
  have hat : i.machine.KeepsSaved (i.atExecution operation).machine := by
    cases operation <;> exact ⟨rfl, rfl⟩
  cases ho with
  | loaded | notLoaded => cases hload
  | parked | notFetched | noKeyDown | noKeyUp | ticked => exact ⟨rfl, rfl⟩
  | executed hop hexecute =>
    have hkept := Machine.KeepsSaved.execute hexecute (hspares _ hop)
    exact ⟨hkept.index.trans hat.index, hkept.ram.trans hat.ram⟩
  | refused => exact hat
  | keyWentDown hdown =>
    exact .of_graft
      (Machine.graft_of_keyDown [.index, .ram] hdown (by decide) (by decide) (by decide))
  | keyWentUp hup => exact .of_graft (Machine.graft_of_keyUp [.index, .ram] hup (by decide))

/-- The same along a history. -/
theorem keepsSaved_run {history : List Operation}
    (hload : ∀ operation ∈ history, operation.isLoad = false)
    (hspares : ∀ op ∈ attempts history i, op.sparesSaved = true) :
    i.machine.KeepsSaved (run history i).machine := by
  induction history generalizing i with
  | nil => exact ⟨rfl, rfl⟩
  | cons operation later ih =>
    rw [List.forall_mem_cons] at hload
    rw [attempts, List.forall_mem_append] at hspares
    have hfirst := (perform_outcome i operation).keepsSaved hload.1
      (fun op hop => hspares.1 op (Option.mem_toList.mpr hop))
    have hlater := ih hload.2 hspares.2
    exact ⟨hlater.index.trans hfirst.index, hlater.ram.trans hfirst.ram⟩

/-- Instructions that are executed in a row are attempted in this order. -/
theorem attempts_executes (ops : List Opcode) (i : Interpreter σ) :
    attempts (ops.map .execute) i = ops := by
  induction ops generalizing i with
  | nil => rfl
  | cons op later ih =>
    show op :: attempts (later.map .execute) _ = op :: later
    rw [ih]

/-! ## Section 3: There and back -/

theorem saved_of_ok {x : UInt8} (h : (execute (.storeRegisters x) i).result = .ok ()) :
    i.machine.index.toNat + (x.toNat % 16 + 1) ≤ 4096 ∧
      (execute (.storeRegisters x) i).state =
        ⟨i.machine.stored (i.machine.registers.toList.take (x.toNat % 16 + 1)), i.source⟩ := by
  obtain ⟨after, hexecute, hstate⟩ := machine_of_execute_ok h
  obtain ⟨hfits, rfl⟩ := Machine.execute_storeRegisters_ok_iff.mp hexecute
  exact ⟨hfits, hstate⟩

theorem restored_of_fits {x : UInt8} (h : i.machine.index.toNat + (x.toNat % 16 + 1) ≤ 4096) :
    (execute (.loadRegisters x) i).result = .ok () ∧
      (execute (.loadRegisters x) i).state =
        ⟨i.machine.restored (x.toNat % 16 + 1), i.source⟩ := by
  have hexecute : i.machine.execute (ByteSource.next i.source).1 (.loadRegisters x) =
      .ok (i.machine.restored (x.toNat % 16 + 1)) :=
    Machine.execute_loadRegisters_ok_iff.mpr ⟨h, rfl⟩
  rw [execute_of_ok hexecute]
  exact ⟨rfl, rfl⟩

/-- To save what was just restored goes through and changes nothing. -/
theorem save_after_restore {x : UInt8} (h : (execute (.loadRegisters x) i).result = .ok ()) :
    let restored := (execute (.loadRegisters x) i).state
    (execute (.storeRegisters x) restored).result = .ok () ∧
      (execute (.storeRegisters x) restored).state = restored := by
  obtain ⟨after, hexecute, -⟩ := machine_of_execute_ok h
  obtain ⟨hfits, -⟩ := Machine.execute_loadRegisters_ok_iff.mp hexecute
  let restored : Interpreter σ := ⟨i.machine.restored (x.toNat % 16 + 1), i.source⟩
  have hstores : restored.machine.execute (ByteSource.next restored.source).1 (.storeRegisters x) =
      .ok restored.machine := Machine.execute_store_restored _ hfits
  rw [(restored_of_fits hfits).2]
  show (execute _ restored).result = .ok () ∧ (execute _ restored).state = restored
  rw [execute_of_ok hstores]
  exact ⟨rfl, rfl⟩

/-! ## Section 4: The main result -/

/-- Registers are saved, then anything happens but a load and the five instructions that move the
    index or write memory, be it executed in a row or stepped with ticks and keys in between, and
    then no more registers are restored than were saved. This is not refused; the registers that are
    restored, the flag register included if it is one of them, hold what they held when they were
    saved, the others what they have come to hold since, and the index is where it was. The other
    way round, wherever registers can be restored they can be saved right after it, and memory is
    the same then. -/
theorem saved_registers_come_back (i : Interpreter σ) (x : UInt8) :
    ((execute (.storeRegisters x) i).result = .ok () →
      ∀ (history : List Operation) (y : UInt8),
        (∀ operation ∈ history, operation.isLoad = false) →
        (∀ op ∈ attempts history (execute (.storeRegisters x) i).state, op.sparesSaved = true) →
        y.toNat % 16 ≤ x.toNat % 16 →
        let later := run history (execute (.storeRegisters x) i).state
        let restored := (execute (.loadRegisters y) later).state
        (execute (.loadRegisters y) later).result = .ok () ∧
        (∀ k : Fin 16, k.val ≤ y.toNat % 16 →
          restored.machine.registers.get k = i.machine.registers.get k) ∧
        (∀ k : Fin 16, y.toNat % 16 < k.val →
          restored.machine.registers.get k = later.machine.registers.get k) ∧
        restored.machine.index = i.machine.index) ∧
    ((execute (.loadRegisters x) i).result = .ok () →
      let again := execute (.storeRegisters x) (execute (.loadRegisters x) i).state
      again.result = .ok () ∧ again.state.machine.ram = i.machine.ram) := by
  constructor
  · intro hsaved history y hload hspares hfewer later restored
    let m := i.machine
    obtain ⟨hfits, hstate⟩ := saved_of_ok hsaved
    -- what is restored is looked for where it was put
    have hkept :
        (m.stored (m.registers.toList.take (x.toNat % 16 + 1))).KeepsSaved later.machine := by
      have hrun := keepsSaved_run hload hspares
      rwa [congrArg Interpreter.machine hstate] at hrun
    have hindex : later.machine.index = m.index := hkept.index
    have hroom : later.machine.index.toNat + (y.toNat % 16 + 1) ≤ 4096 := by
      rw [hindex]
      show i.machine.index.toNat + (y.toNat % 16 + 1) ≤ 4096
      omega
    obtain ⟨hresult, hrestored⟩ := restored_of_fits hroom
    refine ⟨hresult, ?_, ?_, ?_⟩
    · intro k hk
      show (execute (.loadRegisters y) later).state.machine.registers.get k = _
      rw [hrestored, Machine.get_restored, if_pos (Nat.lt_succ_of_le hk), hindex, hkept.ram]
      exact Machine.cell_stored_registers (by omega) (by omega) hfits
    · intro k hk
      show (execute (.loadRegisters y) later).state.machine.registers.get k = _
      rw [hrestored, Machine.get_restored, if_neg (by omega)]
    · show (execute (.loadRegisters y) later).state.machine.index = _
      rw [hrestored]
      exact (later.machine.index_restored _).trans hindex
  · intro hloaded again
    obtain ⟨hagain, hsame⟩ := save_after_restore hloaded
    obtain ⟨after, hexecute, hafter⟩ := machine_of_execute_ok hloaded
    obtain ⟨-, rfl⟩ := Machine.execute_loadRegisters_ok_iff.mp hexecute
    refine ⟨hagain, ?_⟩
    show (execute (.storeRegisters x) (execute (.loadRegisters x) i).state).state.machine.ram = _
    rw [hsame, hafter]
    exact i.machine.ram_restored _

/-- All sixteen registers are saved to the last sixteen cells of memory. Some are changed, and then
    the first two are restored. -/
theorem last_sixteen_cells :
    let i : Interpreter Stride :=
      ⟨{ ((Machine.fresh.setRegister 1 11).setRegister 15 99) with index := 0xff0 }, ⟨1, 0⟩⟩
    let ops : List Opcode := [.loadImm 1 5, .loadImm 2 6, .addReg 2 15, .clearScreen]
    let later := run (ops.map .execute) (execute (.storeRegisters 15) i).state
    let restored := (execute (.loadRegisters 0x11) later).state
    (execute (.storeRegisters 15) i).result = .ok () ∧
    (∀ op ∈ ops, op.sparesSaved = true) ∧
    (execute (.loadRegisters 0x11) later).result = .ok () ∧
    restored.machine.registers.get 1 = 11 ∧ restored.machine.registers.get 2 = 105 ∧
    (execute (.storeRegisters 0x11) restored).state.machine.ram = later.machine.ram := by
  intro i ops later restored
  have hsaved : (execute (.storeRegisters 15) i).result = .ok () := by
    have hfits : i.machine.index.toNat + ((15 : UInt8).toNat % 16 + 1) ≤ 4096 := by decide
    rw [execute_of_ok (Machine.execute_storeRegisters_ok_iff.mpr ⟨hfits, rfl⟩)]
  have hops : ∀ op ∈ ops, op.sparesSaved = true := by decide
  have hspares : ∀ op ∈ attempts (ops.map .execute) (execute (.storeRegisters 15) i).state,
      op.sparesSaved = true := by
    rw [attempts_executes]
    exact hops
  obtain ⟨hresult, hlow, hhigh, -⟩ := (saved_registers_come_back i 15).1 hsaved
    (ops.map .execute) 0x11 (by decide) hspares (by decide)
  -- spelled out as in the facts above, so that nothing has to be carried out to compare them
  have hlater : later = run (ops.map .execute) (execute (.storeRegisters 15) i).state := rfl
  have hrestored : restored = (execute (.loadRegisters 0x11) later).state := rfl
  rw [hrestored, hlater]
  have hone : i.machine.registers.get 1 = 11 := by decide
  have hsum : (run (ops.map .execute)
      (execute (.storeRegisters 15) i).state).machine.registers.get 2 = 105 := by decide +kernel
  refine ⟨hsaved, hops, hresult, (hlow 1 (by decide)).trans hone, ?_, ?_⟩
  · exact (hhigh 2 (by decide)).trans hsum
  · exact ((saved_registers_come_back _ 0x11).2 hresult).2

end Interpreter

end Chip8
