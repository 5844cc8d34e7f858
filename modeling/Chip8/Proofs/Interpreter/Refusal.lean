import Chip8.Proofs.Interpreter.Outcome

/-! # Refused operations change nothing

    An instruction that fails leaves machine and source of random bytes as they are. A step has two
    more ways to fail, before there is an instruction at all: no word at the program counter, or a
    word that is no instruction. Then the step changes nothing either, and it fails in the same way
    as often as it is tried, for what may happen in between (ticks and keys) reaches neither memory
    nor the program counter. Only a refused instruction of a step leaves a trace: the program
    counter has moved past its word. -/

namespace Chip8

namespace Machine

/-! ## Section 1: When there is no instruction -/

/-- The two cells at the program counter as a word. -/
def wordAtPc (m : Machine) : UInt16 :=
  Ram.wordOf (m.ram.cell m.pc.toNat) (m.ram.cell (m.pc.toNat + 1))

/-- The fault that keeps a running machine from getting at an instruction, if one does. -/
def fetchRefusal? (m : Machine) : Option Fault :=
  if 4095 ≤ m.pc.toNat then some (.outOfBounds .memory (max m.pc.toNat 4096))
  else if Opcode.ofWord? m.wordAtPc = none then some (.unsupported m.wordAtPc)
  else none

theorem fetch_eq (m : Machine) :
    m.fetch =
      if 4095 ≤ m.pc.toNat then .error (Ram.outside m.pc)
      else (Opcode.decode m.wordAtPc).map fun op => (m.wordAtPc, op) := by
  unfold fetch
  rw [Ram.word_eq]
  by_cases hend : 4095 ≤ m.pc.toNat
  · simp only [hend, if_true]
    rfl
  · have hword : Ram.wordOf (m.ram.cell m.pc.toNat) (m.ram.cell (m.pc.toNat + 1)) =
        m.wordAtPc := rfl
    simp only [hend, if_false, hword, bind, Except.bind]
    cases Opcode.decode m.wordAtPc <;> rfl

theorem decode_error_iff (word : UInt16) (fault : Fault) :
    Opcode.decode word = .error fault ↔
      Opcode.ofWord? word = none ∧ fault = .unsupported word := by
  unfold Opcode.decode
  cases Opcode.ofWord? word with
  | none => simp [eq_comm]
  | some op => simp

theorem fetch_error_iff (m : Machine) (fault : Fault) :
    m.fetch = .error fault ↔ m.fetchRefusal? = some fault := by
  rw [fetch_eq, fetchRefusal?]
  by_cases hend : 4095 ≤ m.pc.toNat
  · simp [hend, Ram.outside]
  · have hmap : (Opcode.decode m.wordAtPc).map (fun op => (m.wordAtPc, op)) = .error fault ↔
        Opcode.decode m.wordAtPc = .error fault := by
      cases Opcode.decode m.wordAtPc <;> simp [Except.map]
    simp only [hend, if_false, hmap, decode_error_iff]
    by_cases hword : Opcode.ofWord? m.wordAtPc = none
    · simp [hword, eq_comm]
    · simp [hword]

theorem fetch_congr {m m' : Machine} (hpc : m'.pc = m.pc) (hram : m'.ram = m.ram) :
    m'.fetch = m.fetch := by
  simp only [fetch, hpc, hram]

/-- What refuses an instruction does not depend on the program counter. -/
theorem refusal?_pc (m : Machine) (pc : UInt16) (op : Opcode) :
    ({ m with pc } : Machine).refusal? op = m.refusal? op := by
  cases op <;> rfl

end Machine

/-- Is this a step, a tick or a key event? -/
def Operation.isRoutine : Operation → Bool
  | .load _ | .execute _ => false
  | .step | .tick | .keyDown _ | .keyUp _ => true

namespace Interpreter

variable {σ : Type}

/-- The machine runs, and there is no instruction at its program counter for this reason. -/
structure Stuck (fault : Fault) (i : Interpreter σ) : Prop where
  mode : i.machine.mode = .running
  fetch : i.machine.fetch = .error fault

/-- Machines with equal program counters and memories are stuck together. -/
theorem Stuck.of_same {fault : Fault} {i j : Interpreter σ} (h : Stuck fault i)
    (hmode : j.machine.mode = .running) (hpc : j.machine.pc = i.machine.pc)
    (hram : j.machine.ram = i.machine.ram) : Stuck fault j :=
  ⟨hmode, (Machine.fetch_congr hpc hram).trans h.fetch⟩

variable [ByteSource σ]

/-! ## Section 2: Single calls -/

theorem execute_result_error_iff {i : Interpreter σ} (h : i.machine.depth ≤ 16) (op : Opcode)
    (fault : Fault) :
    (execute op i).result = .error fault ↔ i.machine.refusal? op = some fault := by
  rw [← Machine.execute_error_iff h (ByteSource.next i.source).1]
  cases hexecute : i.machine.execute (ByteSource.next i.source).1 op with
  | error other => simp [execute_of_error hexecute]
  | ok m => simp [execute_of_ok hexecute]

theorem execute_state_of_error {i : Interpreter σ} {op : Opcode} {fault : Fault}
    (h : (execute op i).result = .error fault) : (execute op i).state = i := by
  cases hexecute : i.machine.execute (ByteSource.next i.source).1 op with
  | error other => rw [execute_of_error hexecute]
  | ok m => rw [execute_of_ok hexecute] at h; cases h

/-- A step with an instruction answers what executing it answers, past the word. -/
theorem step_of_fetch {i : Interpreter σ} {word : UInt16} {op : Opcode}
    (hmode : i.machine.mode = .running) (hfetch : i.machine.fetch = .ok (word, op)) :
    (step i).result = (execute op i.advance).result ∧
      (step i).state = (execute op i.advance).state := by
  unfold step
  simp only [hmode, hfetch]
  cases h : (execute op i.advance).result with
  | error fault => exact ⟨rfl, rfl⟩
  | ok _ => exact ⟨rfl, rfl⟩

/-! ## Section 3: A machine that cannot go on

    Nothing routine gets a running machine away from a word that it cannot fetch. -/

theorem Stuck.step {fault : Fault} {i : Interpreter σ} (h : Stuck fault i) :
    (step i).result = .error fault ∧ (step i).state = i := by
  unfold Interpreter.step
  simp only [h.mode, h.fetch, and_self]

theorem Stuck.outcome {fault : Fault} {i j : Interpreter σ} {operation : Operation}
    {result : Except Fault (Option Nat)} (h : Stuck fault i) (hroutine : operation.isRoutine)
    (ho : Outcome i operation result j) :
    Stuck fault j ∧ j.machine.pc = i.machine.pc := by
  cases ho with
  | loaded | notLoaded => cases hroutine
  | parked hparked => exact absurd (h.mode.symm.trans hparked) nofun
  | notFetched | noKeyDown | noKeyUp => exact ⟨h, rfl⟩
  | executed hop | refused hop =>
    -- a step of a stuck machine comes to no instruction
    cases operation with
    | step => simp [attempted?, h.mode, h.fetch] at hop
    | execute op => cases hroutine
    | load | tick | keyDown | keyUp => cases hop
  | ticked => exact ⟨h.of_same h.mode rfl rfl, rfl⟩
  | keyWentDown hdown =>
    have hgraft := Machine.graft_of_keyDown [.pc, .ram] hdown
      (by decide) (by decide) (by decide)
    have hpc := (congrArg Machine.pc hgraft).symm
    have hram := (congrArg Machine.ram hgraft).symm
    exact ⟨h.of_same (Machine.keyDown_mode hdown) hpc hram, hpc⟩
  | keyWentUp hup =>
    have hgraft := Machine.graft_of_keyUp [.pc, .ram, .mode] hup (by decide)
    have hmode := (congrArg Machine.mode hgraft).symm.trans h.mode
    have hpc := (congrArg Machine.pc hgraft).symm
    have hram := (congrArg Machine.ram hgraft).symm
    exact ⟨h.of_same hmode hpc hram, hpc⟩

/-- The same along a run. -/
theorem Stuck.run {fault : Fault} {i : Interpreter σ} (h : Stuck fault i)
    {history : List Operation} (hroutine : ∀ operation ∈ history, operation.isRoutine) :
    Stuck fault (run history i) ∧ (run history i).machine.pc = i.machine.pc := by
  -- being stuck is kept by every operation, and with it the program counter
  induction history generalizing i with
  | nil => exact ⟨h, rfl⟩
  | cons operation later ih =>
    rw [List.forall_mem_cons] at hroutine
    obtain ⟨hnext, hpc⟩ := h.outcome hroutine.1 (perform_outcome i operation)
    obtain ⟨hlast, hpc'⟩ := ih hnext hroutine.2
    exact ⟨hlast, hpc'.trans hpc⟩

/-! ## Section 4: The main result -/

/-- Which faults there are, and what they leave. An instruction fails exactly where the table
    `refusal?` says so, and then nothing has changed. A step of a running machine fails for lack of
    an instruction exactly where `fetchRefusal?` says so; nothing has changed then, and every later
    step fails alike, at the same program counter, through any steps, ticks and key events. With an
    instruction it fails exactly as the instruction does, and leaves nothing but the moved program
    counter. -/
theorem refusals_exact_and_atomic (i : Interpreter σ) (h : i.machine.depth ≤ 16) :
    (∀ op fault, (execute op i).result = .error fault ↔ i.machine.refusal? op = some fault) ∧
    (∀ op fault, (execute op i).result = .error fault → (execute op i).state = i) ∧
    (i.machine.mode = .running →
      (∀ fault, i.machine.fetchRefusal? = some fault →
        (step i).result = .error fault ∧ (step i).state = i ∧
        ∀ between : List Operation, (∀ operation ∈ between, operation.isRoutine) →
          (run between i).machine.pc = i.machine.pc ∧
          (step (run between i)).result = .error fault ∧
          (step (run between i)).state = run between i) ∧
      (i.machine.fetchRefusal? = none →
        ∃ word op, i.machine.fetch = .ok (word, op) ∧
          (∀ fault, (step i).result = .error fault ↔ i.machine.refusal? op = some fault) ∧
          ∀ fault, (step i).result = .error fault →
            (step i).state = { i with machine := { i.machine with pc := i.machine.pc + 2 } })) := by
  refine ⟨execute_result_error_iff h, fun op fault => execute_state_of_error, fun hmode => ⟨?_, ?_⟩⟩
  · intro fault hfetch
    -- from here on the machine is stuck
    have hstuck : Stuck fault i := ⟨hmode, (i.machine.fetch_error_iff fault).mpr hfetch⟩
    refine ⟨hstuck.step.1, hstuck.step.2, fun between hroutine => ?_⟩
    obtain ⟨hlater, hpc⟩ := hstuck.run hroutine
    exact ⟨hpc, hlater.step⟩
  · intro hnone
    cases hfetch : i.machine.fetch with
    | error fault =>
      have := (i.machine.fetch_error_iff fault).mp hfetch
      rw [hnone] at this
      cases this
    | ok fetched =>
      obtain ⟨word, op⟩ := fetched
      obtain ⟨hresult, hstate⟩ := step_of_fetch hmode hfetch
      -- the table reads nothing that moving the program counter changes
      refine ⟨word, op, rfl, fun fault => ?_, fun fault hfault => ?_⟩
      · have hadvanced : i.advance.machine.depth ≤ 16 := h
        rw [hresult, execute_result_error_iff hadvanced]
        exact iff_of_eq (congrArg (· = some fault) (i.machine.refusal?_pc _ op))
      · rw [hresult] at hfault
        rw [hstate, execute_state_of_error hfault]
        rfl

/-- A full stack, an index at the end of its range and a program counter at the last cell: three
    faults, and the last of them again after a tick, a key and a key that there is none of. -/
theorem refusals_at_the_limits :
    let m : Machine := { Machine.fresh with depth := 16, index := 0xffff, pc := 0xfff }
    let i : Interpreter Stride := ⟨m, ⟨1, 0⟩⟩
    m.depth ≤ 16 ∧
    (execute (.call 0x300) i).result = .error .stackOverflow ∧
    (execute (.call 0x300) i).state = i ∧
    (execute (.draw 1 2 0) i).result = .error (.outOfBounds .memory 0xffff) ∧
    (step (run [.tick, .keyDown 3, .keyUp 99] i)).result =
      .error (.outOfBounds .memory 0x1000) := by
  intro m i
  have hdepth : m.depth ≤ 16 := by decide
  obtain ⟨hexact, hatomic, hstep⟩ := refusals_exact_and_atomic i hdepth
  have hcall : (execute (.call 0x300) i).result = .error .stackOverflow := (hexact _ _).mpr rfl
  obtain ⟨-, -, hlater⟩ := (hstep rfl).1 (.outOfBounds .memory 0x1000) rfl
  exact ⟨hdepth, hcall, hatomic _ _ hcall, (hexact _ _).mpr rfl, (hlater _ (by decide)).2.1⟩

end Interpreter

end Chip8
