import Chip8.Proofs.Interpreter.Refusal

/-! # Waiting for a key

    A parked machine lies still. Steps do nothing to it, ticks reach its timers and keys that go up
    its latches, and a key that there is none of is refused; nothing else happens, in whatever
    order these come (`Idled`). The first key that goes down ends the wait: its number is put into
    the waiting register and the machine runs on with the word at which it stopped. From then on it
    runs until an instruction parks it again (`running_run`), and the keys of a running machine
    reach no register. -/

namespace Chip8

/-! ## Section 1: Idle operations -/

/-- Does this leave a wait as it is? Every operation from outside does but a load, an instruction
    that is put in, and a key that goes down. -/
def Operation.isIdle : Operation → Bool
  | .step | .tick | .keyUp _ => true
  | .keyDown key => 15 < key.toNat
  | .load _ | .execute _ => false

/-- What an idle operation answers while the machine is parked. -/
def Operation.idleAnswer : Operation → Except Fault (Option Nat)
  | .keyDown key => .error (.invalidKey key)
  | .keyUp key => if 15 < key.toNat then .error (.invalidKey key) else .ok none
  | _ => .ok none

namespace Machine

/-- What a history of idle operations leaves of a parked machine. -/
structure Idled (m : Machine) (history : List Operation) (after : Machine) : Prop where
  /-- Only timers and latches have changed. -/
  rest : after = { m with delay := after.delay, sound := after.sound, keys := after.keys }
  /-- The timers have gone down by the number of ticks, and not below 0. -/
  delay : after.delay.toNat = m.delay.toNat - history.count .tick
  sound : after.sound.toNat = m.sound.toNat - history.count .tick
  /-- A latch is closed if it was and its key has not gone up. -/
  keys : ∀ k : Fin 16,
    after.keys[k] = (m.keys[k] && decide (Operation.keyUp (UInt8.ofNat k) ∉ history))

variable {m after : Machine} {history : List Operation}

theorem Idled.mode (h : Idled m history after) : after.mode = m.mode := by
  rw [h.rest]

theorem Idled.pc (h : Idled m history after) : after.pc = m.pc := by
  rw [h.rest]

theorem Idled.ram (h : Idled m history after) : after.ram = m.ram := by
  rw [h.rest]

/-- An operation without an effect on timers and latches. -/
theorem idled_of_same {operation : Operation} (htick : operation ≠ .tick)
    (hup : ∀ k : Fin 16, operation ≠ .keyUp (UInt8.ofNat k)) : Idled m [operation] m where
  rest := rfl
  delay := by simp [htick]
  sound := by simp [htick]
  keys k := by simp [Ne.symm (hup k)]

theorem toNat_countdown (timer : UInt8) :
    (if timer = 0 then 0 else timer - 1 : UInt8).toNat = timer.toNat - 1 := by
  split
  · next hzero => simp [hzero]
  · next hpos =>
    have hone : 1 ≤ timer := by
      rw [UInt8.le_iff_toNat_le]
      have : timer.toNat ≠ 0 := fun h => hpos (UInt8.toNat_inj.mp h)
      simp
      omega
    exact UInt8.toNat_sub_of_le _ _ hone

theorem idled_tick (m : Machine) : Idled m [.tick] m.tick where
  rest := rfl
  delay := toNat_countdown m.delay
  sound := toNat_countdown m.sound
  keys k := by simp [tick]

theorem idled_keyUp (m : Machine) {key : UInt8} (h : key.toNat < 16) :
    Idled m [.keyUp key] (m.setKey ⟨key.toNat, h⟩ false) where
  rest := rfl
  delay := by simp [setKey]
  sound := by simp [setKey]
  keys k := by
    have hsame : UInt8.ofNat k = key ↔ key.toNat = k := by
      rw [← UInt8.toNat_inj, UInt8.toNat_ofNat']
      omega
    by_cases hk : key.toNat = k
    · simp [setKey, hsame, hk]
    · simp [setKey, hsame, hk, Vector.getElem_set_ne]

/-- One idle history after another. -/
theorem Idled.trans {between : Machine} {operation : Operation} {later : List Operation}
    (hfirst : Idled m [operation] between) (hlater : Idled between later after) :
    Idled m (operation :: later) after where
  rest := by
    have hbetween := hfirst.rest
    rw [hlater.rest, hbetween]
  delay := by
    rw [hlater.delay, hfirst.delay, List.count_cons, List.count_cons, List.count_nil]
    omega
  sound := by
    rw [hlater.sound, hfirst.sound, List.count_cons, List.count_cons, List.count_nil]
    omega
  keys k := by
    rw [hlater.keys, hfirst.keys, Bool.and_assoc, ← Bool.decide_and]
    simp only [List.mem_cons, List.not_mem_nil, or_false, not_or]

end Machine

namespace Interpreter

variable {σ : Type} [ByteSource σ] {i j : Interpreter σ} {operation : Operation}
  {result : Except Fault (Option Nat)}

/-- An idle operation on a parked interpreter answers as it should, takes no random byte and leaves
    the machine idle. -/
theorem Outcome.idled {register : UInt8} (ho : Outcome i operation result j)
    (hparked : i.machine.mode = .awaitingKey register) (hidle : operation.isIdle) :
    result = operation.idleAnswer ∧ j.source = i.source ∧
      Machine.Idled i.machine [operation] j.machine := by
  cases ho with
  | loaded | notLoaded => cases hidle
  | parked => exact ⟨rfl, rfl, Machine.idled_of_same (by simp) (by simp)⟩
  | notFetched hrunning => cases hparked.symm.trans hrunning
  | executed hop | refused hop =>
    -- a parked machine comes to no instruction
    cases operation with
    | step => simp [attempted?, hparked] at hop
    | execute op => cases hidle
    | load | tick | keyDown | keyUp => cases hop
  | ticked => exact ⟨rfl, rfl, Machine.idled_tick i.machine⟩
  | @keyWentDown key m hdown =>
    obtain ⟨hvalid, -⟩ := Machine.keyDown_ok_iff.mp hdown
    have hinvalid : 15 < key.toNat := by simpa [Operation.isIdle] using hidle
    omega
  | noKeyDown hdown =>
    obtain ⟨-, rfl⟩ := (Machine.keyDown_error_iff _ _).mp hdown
    exact ⟨rfl, rfl, Machine.idled_of_same (by simp) (by simp)⟩
  | @keyWentUp key m hup =>
    obtain ⟨hvalid, rfl⟩ := Machine.keyUp_ok_iff.mp hup
    have hanswer : (Operation.keyUp key).idleAnswer = .ok none := if_neg (by omega)
    exact ⟨hanswer.symm, rfl, Machine.idled_keyUp i.machine hvalid⟩
  | @noKeyUp key fault hup =>
    obtain ⟨hinvalid, rfl⟩ := (Machine.keyUp_error_iff _ _).mp hup
    have hanswer : (Operation.keyUp key).idleAnswer = .error (.invalidKey key) := if_pos hinvalid
    refine ⟨hanswer.symm, rfl, Machine.idled_of_same (by simp) ?_⟩
    -- the key of a latch is not the one that there is none of
    rintro k ⟨⟩
    have hlatch : k.val < 16 := k.isLt
    simp only [UInt8.toNat_ofNat'] at hinvalid
    omega

/-- The same along a history. -/
theorem idled_run {register : UInt8} {history : List Operation}
    (hparked : i.machine.mode = .awaitingKey register)
    (hidle : ∀ operation ∈ history, operation.isIdle) :
    answers history i = history.map Operation.idleAnswer ∧ (run history i).source = i.source ∧
      Machine.Idled i.machine history (run history i).machine := by
  induction history generalizing i with
  | nil => exact ⟨rfl, rfl, ⟨rfl, rfl, rfl, by simp⟩⟩
  | cons operation later ih =>
    rw [List.forall_mem_cons] at hidle
    obtain ⟨hresult, hsource, hfirst⟩ := (perform_outcome i operation).idled hparked hidle.1
    obtain ⟨hanswers, hsource', hlater⟩ := ih (hfirst.mode.trans hparked) hidle.2
    refine ⟨?_, hsource'.trans hsource, hfirst.trans hlater⟩
    rw [answers, List.map_cons, hresult, hanswers]

/-! ## Section 2: The key that ends the wait -/

/-- The interpreter that a key wakes: its number is in the waiting register, its latch is closed,
    and the machine runs. -/
def woken (i : Interpreter σ) (register key : UInt8) (h : key.toNat < 16) : Interpreter σ :=
  { i with machine :=
    { (i.machine.setRegister register key).setKey ⟨key.toNat, h⟩ true with mode := .running } }

theorem keyDown_wakes {register key : UInt8} (hparked : i.machine.mode = .awaitingKey register)
    (h : key.toNat < 16) :
    (perform (.keyDown key) i).result = .ok none ∧
      (perform (.keyDown key) i).state = i.woken register key h := by
  have hdown : i.machine.keyDown key = .ok (i.machine.pressed key ⟨key.toNat, h⟩) :=
    Machine.keyDown_ok_iff.mpr ⟨h, rfl⟩
  rw [perform_keyDown]
  simp only [keyDown, become, hdown, Machine.pressed, hparked]
  exact ⟨rfl, rfl⟩

/-! ## Section 3: A running machine and its keys -/

/-- Only an instruction that waits for a key parks a machine. -/
theorem Outcome.running (ho : Outcome i operation result j) (hrunning : i.machine.mode = .running)
    (hwait : ∀ x, attempted? i operation ≠ some (.waitKey x)) : j.machine.mode = .running := by
  have hexecution : (i.atExecution operation).machine.mode = .running := by
    cases operation <;> exact hrunning
  cases ho with
  | loaded => rfl
  | notLoaded | parked | notFetched | ticked | noKeyDown | noKeyUp => exact hrunning
  | @executed _ op m hop hexecute =>
    have hmode : .mode ∉ op.footprint := by
      intro hmem
      cases op with
      | waitKey x => exact hwait x hop
      | _ => simp [Opcode.footprint] at hmem
    have hgraft := Machine.graft_of_execute .mode hexecute hmode
    exact (congrArg Machine.mode hgraft).symm.trans hexecution
  | refused => exact hexecution
  | keyWentDown hdown => exact Machine.keyDown_mode hdown
  | keyWentUp hup =>
    have hgraft := Machine.graft_of_keyUp [.mode] hup (by decide)
    exact (congrArg Machine.mode hgraft).symm.trans hrunning

/-- The same along a history. -/
theorem running_run {history : List Operation} (hrunning : i.machine.mode = .running)
    (hwait : ∀ x, .waitKey x ∉ attempts history i) : (run history i).machine.mode = .running := by
  induction history generalizing i with
  | nil => exact hrunning
  | cons operation later ih =>
    simp only [attempts, List.mem_append, Option.mem_toList, not_or] at hwait
    have hnext := (perform_outcome i operation).running hrunning fun x => (hwait x).1
    exact ih hnext fun x => (hwait x).2

/-- A key of a running machine closes its latch at most. -/
theorem keyDown_registers (hrunning : i.machine.mode = .running) (key : UInt8) :
    (perform (.keyDown key) i).state.machine.registers = i.machine.registers := by
  rw [perform_keyDown]
  cases hdown : i.machine.keyDown key with
  | error fault => simp only [keyDown, become, hdown]
  | ok m =>
    obtain ⟨hvalid, rfl⟩ := Machine.keyDown_ok_iff.mp hdown
    simp only [keyDown, become, hdown, Machine.pressed, hrunning]
    rfl

/-! ## Section 4: The main result -/

/-- A parked machine through any history of idle operations: every step succeeds, and the keys that
    there are none of are all that is refused. It stays parked, no random byte is taken, and nothing
    of the machine changes but its timers, by one for each tick, and the latches of the keys that
    went up. The first key that goes down after that goes into the waiting register and into its
    latch, and the machine runs. The next step then does what the instruction at the old program
    counter does, or fails for want of one; and no further key writes a register, whatever else is
    done, until an instruction waits again. -/
theorem wait_ends_once (i : Interpreter σ) (register : UInt8)
    (hparked : i.machine.mode = .awaitingKey register) (history : List Operation)
    (hidle : ∀ operation ∈ history, operation.isIdle) :
    let j := run history i
    answers history i = history.map Operation.idleAnswer ∧
    j.machine.mode = .awaitingKey register ∧
    j.source = i.source ∧
    Machine.Idled i.machine history j.machine ∧
    ∀ (key : UInt8) (hkey : key.toNat < 16),
      let w := j.woken register key hkey
      (perform (.keyDown key) j).result = .ok none ∧
      (perform (.keyDown key) j).state = w ∧
      w.machine.pc = i.machine.pc ∧
      (∀ word op, i.machine.fetch = .ok (word, op) →
        (step w).result = (execute op w.advance).result ∧
        (step w).state = (execute op w.advance).state) ∧
      (∀ fault, i.machine.fetch = .error fault →
        (step w).result = .error fault ∧ (step w).state = w) ∧
      ∀ later, (∀ x, .waitKey x ∉ attempts later w) → ∀ number,
        (perform (.keyDown number) (run later w)).state.machine.registers =
          (run later w).machine.registers := by
  intro j
  obtain ⟨hanswers, hsource, hidled⟩ := idled_run hparked hidle
  have hstill : j.machine.mode = .awaitingKey register := hidled.mode.trans hparked
  refine ⟨hanswers, hstill, hsource, hidled, ?_⟩
  intro key hkey w
  obtain ⟨hresult, hstate⟩ := keyDown_wakes hstill hkey
  have hrunning : w.machine.mode = .running := rfl
  -- program counter and memory are what they were before the wait
  have hfetch : w.machine.fetch = i.machine.fetch := Machine.fetch_congr hidled.pc hidled.ram
  refine ⟨hresult, hstate, hidled.pc, ?_, ?_, ?_⟩
  · intro word op hword
    exact step_of_fetch hrunning (hfetch.trans hword)
  · intro fault hnone
    exact Stuck.step ⟨hrunning, hfetch.trans hnone⟩
  · intro later hwait number
    exact keyDown_registers (running_run hrunning hwait) number

/-- A wait with an operand above 15, more ticks than the delay timer has left, one key that goes up
    and two that there are none of. Key 7 ends it, and the step after it fails at the old program
    counter, which lies past memory. -/
theorem wait_for_key_seven :
    let m : Machine :=
      { Machine.fresh with
        pc := 0x1000, delay := 2, sound := 9, keys := Vector.replicate 16 true
        mode := .awaitingKey 0x13 }
    let i : Interpreter Stride := ⟨m, ⟨1, 0⟩⟩
    let history : List Operation := [.tick, .step, .keyUp 4, .keyDown 200, .tick, .keyUp 77, .tick]
    let j := run history i
    (∀ operation ∈ history, operation.isIdle) ∧
    j.machine.mode = .awaitingKey 0x13 ∧
    j.machine.delay.toNat = 0 ∧ j.machine.sound.toNat = 6 ∧
    j.machine.keys[(4 : Fin 16)] = false ∧ j.machine.keys[(5 : Fin 16)] = true ∧
    (perform (.keyDown 7) j).state.machine.register 3 = 7 ∧
    (step (perform (.keyDown 7) j).state).result = .error (.outOfBounds .memory 0x1000) := by
  intro m i history j
  have hidle : ∀ operation ∈ history, operation.isIdle := by decide
  obtain ⟨-, hmode, -, hidled, hwake⟩ := wait_ends_once i 0x13 rfl history hidle
  obtain ⟨-, hstate, -, -, hnone, -⟩ := hwake 7 (by decide)
  refine ⟨hidle, hmode, hidled.delay, hidled.sound, hidled.keys 4, hidled.keys 5, ?_, ?_⟩
  · rw [hstate]
    rfl
  · rw [hstate]
    exact (hnone _ rfl).1

end Interpreter

end Chip8
