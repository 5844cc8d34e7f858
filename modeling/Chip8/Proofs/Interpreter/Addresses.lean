import Chip8.Proofs.Interpreter.Refusal
import Chip8.Proofs.Opcode.RoundTrip

/-! # Addresses do not wrap around

    Instructions that come from memory have addresses of twelve bits, and a fetch succeeds only
    where both cells of a word exist. Hence the program counter never gets further than the largest
    address plus the largest byte, which is what a jump with an offset can reach, and a return
    address is at most the size of memory (`Confined`). No sum that the program counter is made of
    comes near `2 ^ 16`, and from the end of memory on every step fails. -/

namespace Chip8

/-- Does this put an instruction in from outside, past memory and decoder? -/
def Operation.injects : Operation → Bool
  | .execute _ => true
  | _ => false

namespace Machine

/-! ## Section 1: The invariant -/

/-- How far the addresses of a machine can get, and the register that it waits with. -/
structure Confined (m : Machine) : Prop where
  /-- `0xfff`, plus `0xff` from a register. -/
  pc_le : m.pc.toNat ≤ 0x10fe
  /-- All slots count, whether live or not. -/
  stack_le : ∀ (k : Nat) (h : k < 16), m.stack[k].toNat ≤ 0x1000
  register_le : ∀ register, m.mode = .awaitingKey register → register.toNat ≤ 15

theorem confined_fresh : Confined fresh where
  pc_le := by decide
  stack_le k h := by simp [fresh]
  register_le register h := by cases h

variable {m after : Machine} {byte : UInt8} {op : Opcode}

/-- What leaves program counter, stack and mode alone. -/
theorem Confined.of_graft (hm : m.Confined) (h : after.graft m [.pc, .stack, .mode] = after) :
    after.Confined := by
  have hpc := congrArg Machine.pc h
  have hstack := congrArg Machine.stack h
  have hmode := congrArg Machine.mode h
  exact ⟨hpc ▸ hm.pc_le, hstack ▸ hm.stack_le, hmode ▸ hm.register_le⟩

/-! ## Section 2: Instructions

    An instruction starts with the program counter behind its word, at `0x1000` at most. -/

theorem toNat_skipIf (hpc : m.pc.toNat ≤ 0x1000) (condition : Bool) :
    (m.skipIf condition).pc.toNat = m.pc.toNat + if condition then 2 else 0 := by
  cases condition with
  | false => rfl
  | true =>
    have htwo : (2 : UInt16).toNat = 2 := rfl
    have hsum : (m.pc + 2).toNat = m.pc.toNat + 2 := by
      rw [UInt16.toNat_add, htwo]
      exact Nat.mod_eq_of_lt (by omega)
    exact hsum

theorem Confined.skipIf (hm : m.Confined) (hpc : m.pc.toNat ≤ 0x1000) (condition : Bool) :
    (m.skipIf condition).Confined := by
  have hsum := toNat_skipIf hpc condition
  cases condition with
  | false => exact hm
  | true => exact ⟨by rw [hsum]; simp; omega, hm.stack_le, hm.register_le⟩

/-- A skip on a key that there is. -/
theorem Confined.skipOnKey (hm : m.Confined) (hpc : m.pc.toNat ≤ 0x1000) {number : UInt8}
    {wanted : Fin 16 → Bool}
    (h : (key number >>= fun k => .ok (m.skipIf (wanted k))) = .ok after) : after.Confined := by
  cases hkey : key number with
  | error fault => rw [hkey] at h; cases h
  | ok k =>
    rw [hkey] at h
    cases h
    exact hm.skipIf hpc _

/-- A jump with an offset gets past memory, and no further than a byte reaches. -/
theorem toNat_jumpOffset {nnn : UInt16} (hnnn : nnn < 0x1000) (offset : UInt8) :
    (nnn + offset.toUInt16).toNat = nnn.toNat + offset.toNat := by
  have haddress : nnn.toNat < 0x1000 := UInt16.lt_iff_toNat_lt.mp hnnn
  have hbyte : offset.toNat < 256 := offset.toNat_lt
  rw [UInt16.toNat_add, UInt8.toNat_toUInt16]
  exact Nat.mod_eq_of_lt (by omega)

theorem Confined.enter (hm : m.Confined) (hpc : m.pc.toNat ≤ 0x1000) {target : UInt16}
    (htarget : target < 0x1000) (h : m.enter target = .ok after) : after.Confined := by
  unfold Machine.enter at h
  split at h <;> cases h
  next hdepth =>
  have haddress : target.toNat < 0x1000 := UInt16.lt_iff_toNat_lt.mp htarget
  refine ⟨by simp only; omega, ?_, hm.register_le⟩
  intro k hslots
  -- the slot that is written gets the return address
  by_cases hk : m.depth = k
  · simp [hk, hpc]
  · have hslot := hm.stack_le k hslots
    simpa [Vector.getElem_set_ne _ _ hk] using hslot

theorem Confined.leave (hm : m.Confined) (h : m.leave = .ok after) : after.Confined := by
  unfold Machine.leave at h
  split at h
  · cases h
  next top hdepth =>
  split at h <;> cases h
  next target hslot =>
  obtain ⟨htop, rfl⟩ := Vector.getElem?_eq_some_iff.mp hslot
  have hentry : m.stack[top].toNat ≤ 0x1000 := hm.stack_le top htop
  exact ⟨by simp only; omega, hm.stack_le, hm.register_le⟩

/-- An instruction whose operands fit a word keeps the addresses confined. -/
theorem Confined.execute (hm : m.Confined) (hpc : m.pc.toNat ≤ 0x1000) (hop : op.WellFormed)
    (h : m.execute byte op = .ok after) : after.Confined := by
  cases op with
  | ret => exact hm.leave h
  | call nnn => exact hm.enter hpc hop h
  | jump nnn =>
    have haddress : nnn.toNat < 0x1000 := UInt16.lt_iff_toNat_lt.mp hop
    cases h
    exact ⟨by simp only; omega, hm.stack_le, hm.register_le⟩
  | jumpOffset nnn =>
    have haddress : nnn.toNat < 0x1000 := UInt16.lt_iff_toNat_lt.mp hop
    have hbyte : (m.register 0).toNat < 256 := (m.register 0).toNat_lt
    cases h
    exact ⟨by simp only [toNat_jumpOffset hop]; omega, hm.stack_le, hm.register_le⟩
  | skipEqImm x kk | skipNeImm x kk | skipEqReg x y | skipNeReg x y =>
    cases h
    exact hm.skipIf hpc _
  | skipKeyPressed x | skipKeyNotPressed x => exact hm.skipOnKey hpc h
  | waitKey x =>
    have hregister : x.toNat < 16 := UInt8.lt_iff_toNat_lt.mp hop
    cases h
    refine ⟨hm.pc_le, hm.stack_le, ?_⟩
    rintro register ⟨⟩
    omega
  | _ =>
    exact hm.of_graft
      (graft_of_execute_of_disjoint [.pc, .stack, .mode] h (by simp [Opcode.footprint]))

end Machine

namespace Interpreter

variable {σ : Type} [ByteSource σ] {i j : Interpreter σ} {operation : Operation} {op : Opcode}
  {result : Except Fault (Option Nat)}

/-! ## Section 3: Steps -/

omit [ByteSource σ] in
/-- A step that gets an instruction has a whole word before the end of memory, and the instruction
    fits a word. -/
theorem fetched_of_attempted (hop : attempted? i .step = some op) :
    i.machine.pc.toNat < 4095 ∧ op.WellFormed := by
  obtain ⟨-, word, hfetch⟩ := fetch_of_attempted hop
  rw [Machine.fetch_eq] at hfetch
  split at hfetch
  · cases hfetch
  next hend =>
  cases hdecode : Opcode.decode i.machine.wordAtPc with
  | error fault => rw [hdecode] at hfetch; cases hfetch
  | ok decoded =>
    rw [hdecode] at hfetch
    cases hfetch
    exact ⟨by omega, (Opcode.decode_ok_iff.mp hdecode).1⟩

omit [ByteSource σ] in
theorem toNat_advance (h : i.machine.pc.toNat < 4095) :
    i.advance.machine.pc.toNat = i.machine.pc.toNat + 2 := by
  have htwo : (2 : UInt16).toNat = 2 := rfl
  rw [advance, UInt16.toNat_add, htwo]
  exact Nat.mod_eq_of_lt (by omega)

omit [ByteSource σ] in
theorem confined_advance (hi : i.machine.Confined) (h : i.machine.pc.toNat < 4095) :
    i.advance.machine.Confined :=
  ⟨by rw [toNat_advance h]; omega, hi.stack_le, hi.register_le⟩

/-- Nothing but an instruction that is put in gets an address out of its confines. -/
theorem Outcome.confined (ho : Outcome i operation result j) (hi : i.machine.Confined)
    (hmemory : operation.injects = false) : j.machine.Confined := by
  cases ho with
  | loaded =>
    have hfresh := Machine.confined_fresh
    exact ⟨hfresh.pc_le, hfresh.stack_le, hfresh.register_le⟩
  | notLoaded | parked | notFetched | noKeyDown | noKeyUp => exact hi
  | executed hop hexecute =>
    cases operation with
    | step =>
      obtain ⟨hpc, hwell⟩ := fetched_of_attempted hop
      have hadvanced := toNat_advance hpc
      exact (confined_advance hi hpc).execute (by omega) hwell hexecute
    | execute op => cases hmemory
    | load | tick | keyDown | keyUp => cases hop
  | refused hop hexecute =>
    cases operation with
    | step => exact confined_advance hi (fetched_of_attempted hop).1
    | execute op => cases hmemory
    | load | tick | keyDown | keyUp => cases hop
  | ticked => exact ⟨hi.pc_le, hi.stack_le, hi.register_le⟩
  | keyWentDown hdown =>
    have hgraft := Machine.graft_of_keyDown [.pc, .stack] hdown (by decide) (by decide) (by decide)
    have hpc := congrArg Machine.pc hgraft
    have hstack := congrArg Machine.stack hgraft
    -- a key that went down has ended the wait
    refine ⟨hpc ▸ hi.pc_le, hstack ▸ hi.stack_le, ?_⟩
    intro register hmode
    cases (Machine.keyDown_mode hdown).symm.trans hmode
  | keyWentUp hup =>
    exact hi.of_graft (Machine.graft_of_keyUp [.pc, .stack, .mode] hup (by decide))

/-- The same along a history. -/
theorem confined_run {history : List Operation} (hi : i.machine.Confined)
    (hmemory : ∀ operation ∈ history, operation.injects = false) :
    (run history i).machine.Confined := by
  induction history generalizing i with
  | nil => exact hi
  | cons operation later ih =>
    rw [List.forall_mem_cons] at hmemory
    exact ih ((perform_outcome i operation).confined hi hmemory.1) hmemory.2

/-- At the end of memory there is no word. -/
theorem step_past_end (hrunning : i.machine.mode = .running) (hend : 4095 ≤ i.machine.pc.toNat) :
    (step i).result = .error (.outOfBounds .memory (max i.machine.pc.toNat 4096)) ∧
      (step i).state = i := by
  have hrefusal : i.machine.fetchRefusal? =
      some (.outOfBounds .memory (max i.machine.pc.toNat 4096)) := if_pos hend
  exact Stuck.step ⟨hrunning, (Machine.fetch_error_iff _ _).mpr hrefusal⟩

/-! ## Section 4: The main result -/

/-- After any history in which every instruction came from memory, the program counter is at most
    `0x10fe`, no slot of the stack holds more than `0x1000`, and a parked machine waits with one of
    its sixteen registers. So whenever a step has got an instruction, the sums that its program
    counter may be made of are what they are for natural numbers: past the word, past the word and
    a skipped one, and the address of a jump plus its offset. And whatever way a machine has got
    to the end of memory, a step there fails and leaves it where it is. -/
theorem addresses_never_wrap (source : σ) (history : List Operation)
    (hmemory : ∀ operation ∈ history, operation.injects = false) :
    let i := run history (fresh source)
    i.machine.pc.toNat ≤ 0x10fe ∧
    (∀ (k : Nat) (h : k < 16), i.machine.stack[k].toNat ≤ 0x1000) ∧
    (∀ register, i.machine.mode = .awaitingKey register → register.toNat ≤ 15) ∧
    (∀ op, attempted? i .step = some op →
      i.advance.machine.pc.toNat = i.machine.pc.toNat + 2 ∧
      (∀ condition, (i.advance.machine.skipIf condition).pc.toNat =
        i.machine.pc.toNat + 2 + if condition then 2 else 0) ∧
      ∀ nnn, op = .jumpOffset nnn →
        (step i).state.machine.pc.toNat = nnn.toNat + (i.machine.register 0).toNat) ∧
    ∀ j : Interpreter σ, j.machine.mode = .running → 4095 ≤ j.machine.pc.toNat →
      (step j).result = .error (.outOfBounds .memory (max j.machine.pc.toNat 4096)) ∧
      (step j).state = j := by
  intro i
  have hi : i.machine.Confined := confined_run Machine.confined_fresh hmemory
  refine ⟨hi.pc_le, hi.stack_le, hi.register_le, ?_, fun j => step_past_end⟩
  intro op hop
  obtain ⟨hpc, hwell⟩ := fetched_of_attempted hop
  have hadvance := toNat_advance hpc
  refine ⟨hadvance, ?_, ?_⟩
  · intro condition
    rw [Machine.toNat_skipIf (by omega), hadvance]
  · rintro nnn rfl
    obtain ⟨hmode, word, hfetch⟩ := fetch_of_attempted hop
    rw [(step_of_fetch hmode hfetch).2, execute_of_ok (i := i.advance) rfl]
    exact Machine.toNat_jumpOffset hwell _

/-- The bound is reached: `0xff` is put into the first register and added to a jump to `0xfff`. The
    step after that fails there. -/
theorem jump_past_memory :
    let source : Stride := ⟨1, 0⟩
    let history : List Operation := [.load (.whole [0x60, 0xff, 0xbf, 0xff]), .step, .step]
    (∀ operation ∈ history, operation.injects = false) ∧
    (run history (fresh source)).machine.pc = 0x10fe ∧
    (run history (fresh source)).machine.pc.toNat ≤ 0x10fe ∧
    (step (run history (fresh source))).result = .error (.outOfBounds .memory 0x10fe) := by
  intro source history
  have hmemory : ∀ operation ∈ history, operation.injects = false := by decide
  have hpc : (run history (fresh source)).machine.pc = 0x10fe := by decide +kernel
  have hrunning : (run history (fresh source)).machine.mode = .running := by decide +kernel
  have hplace : max (0x10fe : UInt16).toNat 4096 = 0x10fe := rfl
  obtain ⟨hle, -, -, -, hend⟩ := addresses_never_wrap source history hmemory
  obtain ⟨hstep, -⟩ := hend _ hrunning (by rw [hpc]; decide)
  rw [hpc, hplace] at hstep
  exact ⟨hmemory, hpc, hle, hstep⟩

end Interpreter

end Chip8
