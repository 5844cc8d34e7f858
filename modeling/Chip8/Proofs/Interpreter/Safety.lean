import Chip8.Proofs.Interpreter.Refusal
import Chip8.Proofs.Machine.Cells
import Chip8.Proofs.Picture.Sprite

/-! # No history leads to a defect

    A defect is an access outside its table: a stack slot, a slice of registers, of memory or of the
    screen's rows, or a copy between slices of different lengths. That none ever happens rests on
    two facts about the machine which every operation keeps: at most sixteen calls are outstanding,
    and programs go to address `0x200`. -/

namespace Chip8

namespace Machine

/-! ## Section 1: The invariant -/

/-- What the checks before an access rely on. -/
structure Sound (m : Machine) : Prop where
  /-- The stack pointer is at most one past the last slot. -/
  depth_le : m.depth ≤ 16
  /-- There is room for programs. -/
  programAddr_eq : m.ram.programAddr = 0x200

theorem sound_fresh : Sound fresh := ⟨by decide, rfl⟩

/-! ## Section 2: Each part of the invariant is kept -/

variable {m after : Machine} {byte : UInt8} {op : Opcode}

theorem enter_depth_le {target : UInt16} (h : m.enter target = .ok after) : after.depth ≤ 16 := by
  unfold enter at h
  split at h
  · cases h
    assumption
  · cases h

theorem leave_depth_le (hm : m.depth ≤ 16) (h : m.leave = .ok after) : after.depth ≤ 16 := by
  cases hdepth : m.depth with
  | zero => simp [leave, hdepth] at h
  | succ top =>
    rw [leave_of_depth hdepth (by omega)] at h
    cases h
    change top ≤ 16
    omega

theorem execute_depth_le (hm : m.depth ≤ 16) (h : m.execute byte op = .ok after) :
    after.depth ≤ 16 := by
  cases op with
  | call nnn => exact enter_depth_le h
  | ret => exact leave_depth_le hm h
  | _ =>
    -- neither a call nor a return, so the stack is not in the footprint
    have hgraft := graft_of_execute .stack h (by simp [Opcode.footprint])
    have hdepth := congrArg Machine.depth hgraft
    exact hdepth ▸ hm

theorem Sound.execute (hm : Sound m) (h : m.execute byte op = .ok after) : Sound after :=
  ⟨execute_depth_le hm.depth_le h, (execute_programAddr h).trans hm.programAddr_eq⟩

theorem Sound.of_graft (hm : Sound m) (h : after.graft m [.stack, .ram] = after) :
    Sound after := by
  have hdepth := congrArg Machine.depth h
  have hram := congrArg Machine.ram h
  exact ⟨hdepth ▸ hm.depth_le, hram ▸ hm.programAddr_eq⟩

/-! ## Section 3: No defect -/

/-- The table of refusals names no defect. -/
theorem refusal?_isDefect {fault : Fault} (h : m.refusal? op = some fault) :
    fault.isDefect = false := by
  cases op with
  | draw x y n =>
    simp only [refusal?] at h
    split at h
    · cases h
      rfl
    · obtain ⟨-, hfault⟩ := by simpa using h
      exact hfault ▸ rfl
  | ret | call nnn | skipKeyPressed x | skipKeyNotPressed x | storeBcd x | storeRegisters x
  | loadRegisters x =>
    obtain ⟨-, hfault⟩ := by simpa [refusal?] using h
    exact hfault ▸ rfl
  | _ => cases h

theorem fetchRefusal?_isDefect {fault : Fault} (h : m.fetchRefusal? = some fault) :
    fault.isDefect = false := by
  unfold fetchRefusal? at h
  split at h
  · cases h
    rfl
  · obtain ⟨-, hfault⟩ := by simpa using h
    exact hfault ▸ rfl

end Machine

namespace Ram

/-- A load into memory with the usual program address. -/
theorem load_fresh_eq (bytes : List UInt8) :
    fresh.load (.whole bytes) =
      if 3584 < bytes.length then .error (.programTooLarge bytes.length 3584)
      else .ok (bytes.length, fresh.written 0x200 bytes) :=
  load_whole (by decide) bytes

theorem load_fresh_isDefect {program : Delivery} {fault : Fault}
    (h : fresh.load program = .error fault) : fault.isDefect = false := by
  cases program with
  | broken bytes text =>
    cases h
    rfl
  | whole bytes =>
    rw [load_fresh_eq] at h
    split at h <;> cases h
    rfl

theorem load_fresh_programAddr {program : Delivery} {size : Nat} {ram : Ram}
    (h : fresh.load program = .ok (size, ram)) : ram.programAddr = 0x200 := by
  cases program with
  | broken bytes text => cases h
  | whole bytes =>
    rw [load_fresh_eq] at h
    split at h <;> cases h
    rfl

end Ram

namespace Interpreter

/-! ## Section 4: Operations and histories -/

variable {σ : Type} [ByteSource σ]

omit [ByteSource σ] in
theorem sound_atExecution {i : Interpreter σ} (hi : i.machine.Sound) (operation : Operation) :
    (i.atExecution operation).machine.Sound := by
  cases operation <;> exact ⟨hi.depth_le, hi.programAddr_eq⟩

/-- Every operation keeps the invariant, whatever it answers. -/
theorem Outcome.sound {i j : Interpreter σ} {operation : Operation}
    {result : Except Fault (Option Nat)} (ho : Outcome i operation result j)
    (hi : i.machine.Sound) : j.machine.Sound := by
  cases ho with
  | loaded hload => exact ⟨Machine.sound_fresh.depth_le, Ram.load_fresh_programAddr hload⟩
  | notLoaded | parked | notFetched | noKeyDown | noKeyUp => exact hi
  | executed hop hexecute => exact (sound_atExecution hi operation).execute hexecute
  | refused hop hexecute => exact sound_atExecution hi operation
  | ticked => exact ⟨hi.depth_le, hi.programAddr_eq⟩
  | keyWentDown hdown =>
    exact hi.of_graft (Machine.graft_of_keyDown _ hdown (by decide) (by decide) (by decide))
  | keyWentUp hup => exact hi.of_graft (Machine.graft_of_keyUp _ hup (by decide))

/-- Under the invariant no operation answers with a defect. -/
theorem Outcome.isDefect {i j : Interpreter σ} {operation : Operation} {fault : Fault}
    (ho : Outcome i operation (.error fault) j) (hi : i.machine.Sound) :
    fault.isDefect = false := by
  cases ho with
  | notLoaded hload => exact Ram.load_fresh_isDefect hload
  | notFetched hmode hfetch =>
    exact Machine.fetchRefusal?_isDefect ((Machine.fetch_error_iff _ fault).mp hfetch)
  | refused hop hexecute =>
    have hdepth := (sound_atExecution hi operation).depth_le
    exact Machine.refusal?_isDefect ((Machine.execute_error_iff hdepth _ _ fault).mp hexecute)
  | noKeyDown hdown => rw [((Machine.keyDown_error_iff _ fault).mp hdown).2]; rfl
  | noKeyUp hup => rw [((Machine.keyUp_error_iff _ fault).mp hup).2]; rfl

theorem sound_perform {i : Interpreter σ} (hi : i.machine.Sound) (operation : Operation) :
    (perform operation i).state.machine.Sound :=
  (perform_outcome i operation).sound hi

theorem sound_run {i : Interpreter σ} (hi : i.machine.Sound) (history : List Operation) :
    (run history i).machine.Sound :=
  run_invariant (P := fun i => i.machine.Sound)
    (fun _ operation hi => sound_perform hi operation) history i hi

/-- After any history at most sixteen calls are outstanding, memory has its 4096 cells, programs go
    to address `0x200`, and whatever is done next ends well or with a fault that is no defect: no
    stack slot, no slice of registers, memory or rows and no copy is out of range. Registers and key
    latches are named by numbers below 16 throughout. The shifts that place a sprite row stay within
    the width of a line, for otherwise they would not be the quotient that they are. -/
theorem no_defect_after_any_history (source : σ) (history : List Operation)
    (operation : Operation) :
    let i := run history (fresh source)
    i.machine.depth ≤ 16 ∧
    i.machine.ram.cells.toList.length = 4096 ∧
    i.machine.ram.programAddr = 0x200 ∧
    (∀ fault, (perform operation i).result = .error fault → fault.isDefect = false) ∧
    ∀ row x, (Sprite.line row x).toNat = row.toNat * 2 ^ 56 / 2 ^ x.toNat := by
  intro i
  have hsound : i.machine.Sound := sound_run Machine.sound_fresh history
  refine ⟨hsound.depth_le, Vector.length_toList, hsound.programAddr_eq, ?_, Sprite.toNat_line⟩
  intro fault hfault
  -- the answer of the outcome is the fault
  have ho := perform_outcome i operation
  rw [hfault] at ho
  exact ho.isDefect hsound

end Interpreter

end Chip8
