import Chip8.Proofs.Interpreter.Refusal

/-! # Ticks and steps pass each other

    Of all instructions only three touch the timers. Any other does the same before a tick as after
    it, so a step that executes none of the three can be put off until after a tick, or the other
    way round. What holds of one tick and one step is carried over to any number of both. -/

namespace Chip8

/-! ## Section 1: Instructions -/

/-- Does the instruction neither read nor set a timer? -/
def Opcode.sparesTimers : Opcode → Bool
  | .loadDelay _ | .setDelay _ | .setSound _ => false
  | _ => true

/-- The two timers. -/
def Part.timers : List Part := [.delay, .sound]

theorem Opcode.footprint_of_sparesTimers {op : Opcode} (h : op.sparesTimers = true) :
    ∀ part ∈ op.footprint, part ∉ Part.timers := by
  cases op with
  | loadDelay | setDelay | setSound => cases h
  | _ => simp [footprint, Part.timers]

namespace Machine

/-- A tick changes the timers and goes by nothing else. -/
theorem actsOn_tick : ActsOn tick Part.timers where
  graft m := by simp [graft, tick, Part.timers]
  same m after h := by
    have htimers : m.delay = after.delay ∧ m.sound = after.sound := by
      rw [← h]
      exact ⟨rfl, rfl⟩
    simp [graft, tick, Part.timers, htimers]

/-- An instruction that spares the timers can be put off until after a tick. -/
theorem execute_tick (m : Machine) (byte : UInt8) {op : Opcode} (h : op.sparesTimers = true) :
    m.tick.execute byte op = (m.execute byte op).map tick := by
  apply actsOn_tick.commutes (g := fun m => m.execute byte op)
  intro m other
  exact execute_graft byte (Opcode.footprint_of_sparesTimers h)

/-- The machines differ in their timers at the most. -/
def SameButTimers (m m' : Machine) : Prop :=
  m' = { m with delay := m'.delay, sound := m'.sound }

end Machine

namespace Interpreter

variable {σ : Type} [ByteSource σ]

/-! ## Section 2: One step and one tick -/

/-- The interpreter with a change made to its machine. -/
def onMachine (f : Machine → Machine) (i : Interpreter σ) : Interpreter σ :=
  { i with machine := f i.machine }

/-- A change of a machine that a fetch does not notice. -/
structure Unnoticed (f : Machine → Machine) : Prop where
  mode : ∀ m, (f m).mode = m.mode
  pc : ∀ m, (f m).pc = m.pc
  ram : ∀ m, (f m).ram = m.ram
  advance : ∀ m pc, f { m with pc } = { f m with pc }

omit [ByteSource σ] in
theorem Unnoticed.fetch_eq {f : Machine → Machine} (hf : Unnoticed f) (i : Interpreter σ) :
    (onMachine f i).machine.fetch = i.machine.fetch :=
  Machine.fetch_congr (hf.pc i.machine) (hf.ram i.machine)

omit [ByteSource σ] in
/-- A step comes to the same instruction. -/
theorem Unnoticed.attempted {f : Machine → Machine} (hf : Unnoticed f) (i : Interpreter σ) :
    attempted? (onMachine f i) .step = attempted? i .step := by
  have hmode : (onMachine f i).machine.mode = i.machine.mode := hf.mode i.machine
  simp only [attempted?, hmode, hf.fetch_eq i]

omit [ByteSource σ] in
theorem Unnoticed.advance_onMachine {f : Machine → Machine} (hf : Unnoticed f)
    (i : Interpreter σ) : (onMachine f i).advance = onMachine f i.advance := by
  have hpc : (f i.machine).pc = i.machine.pc := hf.pc i.machine
  simp only [Interpreter.advance, onMachine, hpc, hf.advance i.machine (i.machine.pc + 2)]

/-- Whatever a fetch does not notice, and can be put off until after the instruction, can be put off
    until after the step. -/
theorem step_onMachine {f : Machine → Machine} (hf : Unnoticed f) {i : Interpreter σ}
    (h : ∀ op ∈ attempted? i .step,
      (f i.advance.machine).execute (ByteSource.next i.source).1 op =
        (i.advance.machine.execute (ByteSource.next i.source).1 op).map f) :
    (step (onMachine f i)).result = (step i).result ∧
      (step (onMachine f i)).state = onMachine f (step i).state := by
  have hmode : (onMachine f i).machine.mode = i.machine.mode := hf.mode i.machine
  unfold step
  rw [hmode, hf.fetch_eq i]
  cases hrunning : i.machine.mode with
  | awaitingKey register => exact ⟨rfl, rfl⟩
  | running =>
    cases hfetched : i.machine.fetch with
    | error fault => exact ⟨rfl, rfl⟩
    | ok fetched =>
      -- both fetch the same word, and move the program counter by the same
      obtain ⟨word, op⟩ := fetched
      have hop : attempted? i .step = some op := by simp [attempted?, hrunning, hfetched]
      have hexecute := h op hop
      simp only [hf.advance_onMachine i]
      cases hmachine : i.advance.machine.execute (ByteSource.next i.source).1 op with
      | error fault =>
        rw [hmachine] at hexecute
        rw [execute_of_error (i := i.advance) hmachine,
          execute_of_error (i := onMachine f i.advance) hexecute]
        exact ⟨rfl, rfl⟩
      | ok m =>
        rw [hmachine] at hexecute
        rw [execute_of_ok (i := i.advance) hmachine,
          execute_of_ok (i := onMachine f i.advance) hexecute]
        exact ⟨rfl, rfl⟩

theorem unnoticed_tick : Unnoticed Machine.tick where
  mode _ := rfl
  pc _ := rfl
  ram _ := rfl
  advance _ _ := rfl

/-- A step can be put off until after a tick if its instruction spares the timers. -/
theorem step_tick {i : Interpreter σ}
    (h : ∀ op ∈ attempted? i .step, op.sparesTimers = true) :
    (step (tick i).state).result = (step i).result ∧
      (step (tick i).state).state = (tick (step i).state).state := by
  apply step_onMachine unnoticed_tick
  intro op hop
  exact i.advance.machine.execute_tick _ (h op hop)

/-! ## Section 3: Any number of both -/

/-- The instructions that up to `count` steps come to, with the one that fails, if one does. -/
def instructions : Nat → Interpreter σ → List Opcode
  | 0, _ => []
  | count + 1, i =>
    (attempted? i .step).toList ++
      match (step i).result with
      | .ok () => instructions count (step i).state
      | .error _ => []

omit [ByteSource σ] in
theorem ticks_add (a b : Nat) (i : Interpreter σ) :
    (ticks (a + b) i).state = (ticks b (ticks a i).state).state := by
  induction a generalizing i with
  | zero => rw [Nat.zero_add]; rfl
  | succ a ih => rw [Nat.succ_add]; exact ih (tick i).state

omit [ByteSource σ] in
theorem ticks_eq (t : Nat) (i : Interpreter σ) :
    ∃ delay sound, (ticks t i).state = { i with machine := { i.machine with delay, sound } } := by
  induction t generalizing i with
  | zero => exact ⟨i.machine.delay, i.machine.sound, rfl⟩
  | succ t ih =>
    obtain ⟨delay, sound, hticks⟩ := ih (tick i).state
    exact ⟨delay, sound, hticks⟩

omit [ByteSource σ] in
/-- Different numbers of ticks make a difference to the timers only. -/
theorem ticks_sameButTimers (a b : Nat) (i : Interpreter σ) :
    (ticks a i).state.machine.SameButTimers (ticks b i).state.machine ∧
      (ticks a i).state.source = (ticks b i).state.source := by
  obtain ⟨_, _, ha⟩ := ticks_eq a i
  obtain ⟨_, _, hb⟩ := ticks_eq b i
  rw [ha, hb]
  exact ⟨rfl, rfl⟩

/-- Steps can be put off until after a tick if all of their instructions spare the timers. -/
theorem steps_tick {count : Nat} {i : Interpreter σ}
    (h : ∀ op ∈ instructions count i, op.sparesTimers = true) :
    instructions count (tick i).state = instructions count i ∧
      (steps count (tick i).state).1 = (steps count i).1 ∧
      (steps count (tick i).state).2.result = (steps count i).2.result ∧
      (steps count (tick i).state).2.state = (tick (steps count i).2.state).state := by
  induction count generalizing i with
  | zero => exact ⟨rfl, rfl, rfl, rfl⟩
  | succ count ih =>
    rw [instructions, List.forall_mem_append] at h
    obtain ⟨hfirst, hrest⟩ := h
    have hattempted : attempted? (tick i).state .step = attempted? i .step := rfl
    obtain ⟨hresult, hstate⟩ := step_tick (i := i) fun op hop => hfirst op (by simpa using hop)
    simp only [instructions, steps, hattempted, hresult, hstate]
    cases hstep : (step i).result with
    | error fault => exact ⟨rfl, rfl, rfl, rfl⟩
    | ok _ =>
      rw [hstep] at hrest
      obtain ⟨hinstructions, hsucceeded, hresults, hstates⟩ := ih hrest
      exact ⟨congrArg _ hinstructions, congrArg (· + 1) hsucceeded, hresults, hstates⟩

/-- And until after any number of ticks. -/
theorem steps_ticks (t : Nat) {count : Nat} {i : Interpreter σ}
    (h : ∀ op ∈ instructions count i, op.sparesTimers = true) :
    (steps count (ticks t i).state).1 = (steps count i).1 ∧
      (steps count (ticks t i).state).2.result = (steps count i).2.result ∧
      (steps count (ticks t i).state).2.state = (ticks t (steps count i).2.state).state := by
  induction t generalizing i with
  | zero => exact ⟨rfl, rfl, rfl⟩
  | succ t ih =>
    obtain ⟨hinstructions, hsucceeded, hresult, hstate⟩ := steps_tick h
    obtain ⟨hsucceeded', hresult', hstate'⟩ := ih (hinstructions ▸ h)
    rw [hstate] at hstate'
    exact ⟨hsucceeded'.trans hsucceeded, hresult'.trans hresult, hstate'⟩

/-! ### Steps one after another -/

/-- Steps that succeed can be followed by more. -/
theorem steps_add {a : Nat} {i : Interpreter σ} (h : (steps a i).2.result = .ok ()) (b : Nat) :
    let earlier := steps a i
    let later := steps b earlier.2.state
    instructions (a + b) i = instructions a i ++ instructions b earlier.2.state ∧
      (steps (a + b) i).1 = a + later.1 ∧ (steps (a + b) i).2.result = later.2.result ∧
      (steps (a + b) i).2.state = later.2.state := by
  induction a generalizing i with
  | zero => simp [steps, instructions]
  | succ a ih =>
    rw [Nat.succ_add]
    cases hstep : (step i).result with
    | error fault => simp [steps, hstep] at h
    | ok _ =>
      simp only [steps, hstep] at h
      obtain ⟨hinstructions, hsucceeded, hresult, hstate⟩ := ih h
      simp only [steps, instructions, hstep, hinstructions, hsucceeded, hresult, hstate]
      refine ⟨(List.append_assoc ..).symm, ?_, trivial, trivial⟩
      omega

/-- More steps come to the same instructions first. -/
theorem instructions_prefix (a b : Nat) (i : Interpreter σ) :
    instructions a i <+: instructions (a + b) i := by
  induction a generalizing i with
  | zero => exact List.nil_prefix
  | succ a ih =>
    rw [Nat.succ_add, instructions, instructions, List.prefix_append_right_inj]
    cases (step i).result with
    | error fault => exact List.nil_prefix
    | ok _ => exact ih (step i).state

/-- Steps of which one fails cannot. -/
theorem steps_of_error {a : Nat} {i : Interpreter σ} {fault : Fault}
    (h : (steps a i).2.result = .error fault) (b : Nat) : steps (a + b) i = steps a i := by
  induction a generalizing i with
  | zero => cases h
  | succ a ih =>
    rw [Nat.succ_add]
    cases hstep : (step i).result with
    | error _ => simp only [steps, hstep]
    | ok _ =>
      simp only [steps, hstep] at h
      simp only [steps, hstep, ih h]

end Interpreter

end Chip8
