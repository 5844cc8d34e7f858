import Mathlib.Data.List.Perm.Basic
import Chip8.Proofs.Interpreter.Latch
import Chip8.Proofs.Interpreter.Timers
import Chip8.Proofs.Interpreter.Waiting

/-! # Operations that pass each other

    Ticks, key events and steps come from different clocks, and mostly it makes no difference which
    of two comes first. `Passes` says so of two operations on one interpreter: each answers the same
    in either order, and both orders lead to the same interpreter.

    A tick passes a step exactly if the instruction makes nothing of a timer that counts
    (`tick_passes_step_iff`), and a key exactly if the instruction does not skip on a latch of that
    key which the event changes (`keyUp_passes_step_iff`, `keyDown_passes_step_iff`); ticks pass
    keys always. What two operations do carries over to any number of ticks and steps, for every
    order of them comes from every other by exchanging neighbours. -/

namespace Chip8

/-! ## Section 1: Instructions -/

/-- Does the instruction skip on the latch of this key? -/
def Machine.AsksFor (m : Machine) (key : UInt8) : Opcode → Prop
  | .skipKeyPressed x | .skipKeyNotPressed x => m.register x = key
  | _ => False

/-- Is there a key of this number, and is its latch closed, if `held`, or open? -/
def Machine.Latched (m : Machine) (key : UInt8) (held : Bool) : Prop :=
  ∃ h : key.toNat < 16, m.keys.get ⟨key.toNat, h⟩ = held

/-- Does the instruction read a timer that counts, or set one counting? -/
def Machine.Times (m : Machine) : Opcode → Prop
  | .loadDelay _ => m.delay ≠ 0
  | .setDelay x | .setSound x => m.register x ≠ 0
  | _ => False

/-- `m` ticks and `n` steps, in some order. -/
def Operation.Interleaves (m n : Nat) (history : List Operation) : Prop :=
  history.Perm (List.replicate m .tick ++ List.replicate n .step)

namespace Machine

variable {m : Machine}

/-! ### Ticks -/

/-- Only at 0 a timer stands still. -/
theorem countdown_eq_self_iff (timer : UInt8) :
    (if timer = 0 then 0 else timer - 1) = timer ↔ timer = 0 := by
  rw [← UInt8.toNat_inj, toNat_countdown, ← UInt8.toNat_inj, UInt8.toNat_zero]
  omega

theorem not_times_of_sparesTimers {op : Opcode} (h : op.sparesTimers = true) : ¬ m.Times op := by
  cases op with
  | loadDelay | setDelay | setSound => cases h
  | _ => exact not_false

/-- A tick can be made before the instruction or after it exactly if the timer that the instruction
    is about stands still. -/
theorem execute_tick_iff (m : Machine) (byte : UInt8) (op : Opcode) :
    m.tick.execute byte op = (m.execute byte op).map tick ↔ ¬ m.Times op := by
  have hstill : ∀ timer : UInt8, ¬ timer ≠ 0 ↔ (if timer = 0 then 0 else timer - 1) = timer :=
    fun timer => not_not.trans (countdown_eq_self_iff timer).symm
  cases op with
  | loadDelay x =>
    apply Iff.trans _ (hstill m.delay).symm
    constructor
    · intro h
      -- the register tells whether the timer was read before the tick or after it
      calc m.tick.delay
        _ = (m.tick.setRegister x m.tick.delay).register x :=
          (register_setRegister_self m.tick x m.tick.delay).symm
        _ = (m.setRegister x m.delay).tick.register x :=
          congrArg (·.register x) (Except.ok.inj h)
        _ = m.delay := register_setRegister_self m x m.delay
    · intro h
      exact congrArg (fun timer => Except.ok (m.tick.setRegister x timer)) h
  | setDelay x =>
    apply Iff.trans _ (hstill (m.register x)).symm
    constructor
    · intro h
      exact (congrArg delay (Except.ok.inj h)).symm
    · intro h
      exact congrArg (fun timer => Except.ok { m.tick with delay := timer }) h.symm
  | setSound x =>
    apply Iff.trans _ (hstill (m.register x)).symm
    constructor
    · intro h
      exact (congrArg sound (Except.ok.inj h)).symm
    · intro h
      exact congrArg (fun timer => Except.ok { m.tick with sound := timer }) h.symm
  | _ => exact iff_of_true (execute_tick m byte rfl) not_false

/-! ### Keys -/

/-- The machine with a latch changed looks different to nothing but the latches. -/
theorem actsOn_setKey (k : Fin 16) (held : Bool) : ActsOn (·.setKey k held) [.keys] where
  graft m := by simp [graft, setKey]
  same m after h := by
    have hkeys : m.keys = after.keys := by
      rw [← h]
      rfl
    simp [graft, setKey, hkeys]

theorem skipIf_setKey (m : Machine) (condition : Bool) (k : Fin 16) (held : Bool) :
    (m.skipIf condition).setKey k held = (m.setKey k held).skipIf condition := by
  cases condition <;> rfl

/-- Where the machine goes on tells whether it has skipped. -/
theorem skipIf_inj {a b : Bool} : m.skipIf a = m.skipIf b ↔ a = b := by
  have hpc : m.pc + 2 ≠ m.pc := by
    intro h
    have hnat := congrArg UInt16.toNat h
    rw [UInt16.toNat_add] at hnat
    have htwo : (2 : UInt16).toNat = 2 := rfl
    omega
  refine ⟨?_, congrArg m.skipIf⟩
  intro h
  have hskipped := congrArg pc h
  cases a <;> cases b
  · rfl
  · exact absurd hskipped.symm hpc
  · exact absurd hskipped hpc
  · rfl

/-- A latch can be changed before a skip or after it exactly if the skip is on another one, or
    nothing changes. -/
theorem skipOnKey_setKey_iff (x : UInt8) (k : Fin 16) (held : Bool) {wanted : Bool → Bool}
    (hwanted : Function.Injective wanted) :
    (do let number ← key ((m.setKey k held).register x)
        return (m.setKey k held).skipIf (wanted ((m.setKey k held).keys.get number))) =
      Except.map (fun after : Machine => after.setKey k held)
        (do let number ← key (m.register x)
            return m.skipIf (wanted (m.keys.get number))) ↔
      ¬ ((m.register x).toNat = k ∧ m.keys.get k ≠ held) := by
  have hregister : (m.setKey k held).register x = m.register x := rfl
  rw [hregister]
  by_cases hnumber : (m.register x).toNat < 16
  · let number : Fin 16 := ⟨(m.register x).toNat, hnumber⟩
    rw [key_of_lt hnumber]
    show Except.ok ((m.setKey k held).skipIf (wanted ((m.setKey k held).keys.get number))) =
      Except.ok ((m.skipIf (wanted (m.keys.get number))).setKey k held) ↔ _
    rw [skipIf_setKey, Except.ok.injEq, skipIf_inj, hwanted.eq_iff, keys_setKey]
    by_cases hk : (m.register x).toNat = k
    · have hnumber : number = k := Fin.ext hk
      simp [hk, hnumber, eq_comm]
    · simp [hk, number, Ne.symm hk]
  · -- neither skip gets as far as a latch
    have hk : (m.register x).toNat ≠ k := by omega
    rw [key_of_gt (by omega)]
    exact iff_of_true rfl fun h => hk h.1

/-- The latch of a key can be changed before an instruction or after it exactly if the instruction
    does not ask for the key, or nothing changes. -/
theorem execute_setKey_iff (m : Machine) (byte : UInt8) (op : Opcode) {key : UInt8} {k : Fin 16}
    (held : Bool) (hk : key.toNat = k) :
    (m.setKey k held).execute byte op = (m.execute byte op).map (·.setKey k held) ↔
      ¬ (m.AsksFor key op ∧ m.keys.get k ≠ held) := by
  have hkey : ∀ number : UInt8, number = key ↔ number.toNat = k := by
    intro number
    rw [← UInt8.toNat_inj, hk]
  cases op with
  | skipKeyPressed x =>
    show _ ↔ ¬ (m.register x = key ∧ _)
    rw [hkey]
    exact skipOnKey_setKey_iff x k held Function.injective_id
  | skipKeyNotPressed x =>
    show _ ↔ ¬ (m.register x = key ∧ _)
    rw [hkey]
    exact skipOnKey_setKey_iff x k held fun _ _ => Bool.not_inj
  | _ =>
    -- no other instruction looks at a latch
    apply iff_of_true _ fun h => h.1
    apply (actsOn_setKey k held).commutes (g := fun m => m.execute byte _)
    intro m other
    exact execute_graft byte (by simp [Opcode.footprint])

theorem latched_iff {key : UInt8} {k : Fin 16} {held : Bool} (hk : key.toNat = k) :
    m.Latched key held ↔ m.keys.get k = held := by
  have hlt : key.toNat < 16 := hk ▸ k.isLt
  have hsame : (⟨key.toNat, hlt⟩ : Fin 16) = k := Fin.ext hk
  rw [← hsame]
  exact exists_prop_of_true hlt

/-! ### Both -/

/-- A key and a tick do not look at the same parts. -/
theorem keyDown_tick (m : Machine) (number : UInt8) :
    m.tick.keyDown number = (m.keyDown number).map tick := by
  apply actsOn_tick.commutes (g := fun m => m.keyDown number)
  intro m other
  exact keyDown_graft (by decide) (by decide) (by decide) number

theorem keyUp_tick (m : Machine) (number : UInt8) :
    m.tick.keyUp number = (m.keyUp number).map tick := by
  apply actsOn_tick.commutes (g := fun m => m.keyUp number)
  intro m other
  exact keyUp_graft (by decide) number

end Machine

namespace Interpreter

/-! ## Section 2: Two operations -/

variable {σ : Type} [ByteSource σ] {i : Interpreter σ}

/-- The operations can change places: each of them answers the same, and what they leave is the
    same, sources of random bytes included. -/
structure Passes (i : Interpreter σ) (a b : Operation) : Prop where
  first : (perform a (perform b i).state).result = (perform a i).result
  second : (perform b (perform a i).state).result = (perform b i).result
  state : (perform b (perform a i).state).state = (perform a (perform b i).state).state

/-- The operation is something done to the machine, or not done where it is refused. -/
structure Does (σ : Type) [ByteSource σ] (a : Operation) (f : Machine → Except Fault Machine) :
    Prop where
  ok : ∀ (i : Interpreter σ) m, f i.machine = .ok m →
    (perform a i).result = .ok none ∧ (perform a i).state = { i with machine := m }
  error : ∀ (i : Interpreter σ) fault, f i.machine = .error fault →
    (perform a i).result = .error fault ∧ (perform a i).state = i

theorem does_keyDown (key : UInt8) : Does σ (.keyDown key) (·.keyDown key) where
  ok i m h := by
    rw [perform_keyDown]
    simp only [keyDown, become, h, Except.map, and_self]
  error i fault h := by
    rw [perform_keyDown]
    simp only [keyDown, become, h, Except.map, and_self]

theorem does_keyUp (key : UInt8) : Does σ (.keyUp key) (·.keyUp key) where
  ok i m h := by
    rw [perform_keyUp]
    simp only [keyUp, become, h, Except.map, and_self]
  error i fault h := by
    rw [perform_keyUp]
    simp only [keyUp, become, h, Except.map, and_self]

/-! ### Ticks and keys -/

/-- A tick passes what is done to the machine alike before the tick and after it. -/
theorem Does.tick_passes {a : Operation} {f : Machine → Except Fault Machine} (ha : Does σ a f)
    (htick : ∀ m, f m.tick = (f m).map Machine.tick) (i : Interpreter σ) : Passes i .tick a := by
  have hafter : f (perform .tick i).state.machine = (f i.machine).map Machine.tick :=
    htick i.machine
  cases h : f i.machine with
  | error fault =>
    rw [h] at hafter
    obtain ⟨hresult, hstate⟩ := ha.error i fault h
    obtain ⟨hresult', hstate'⟩ := ha.error _ fault hafter
    refine ⟨rfl, hresult'.trans hresult.symm, ?_⟩
    rw [hstate', hstate]
  | ok m =>
    rw [h] at hafter
    obtain ⟨hresult, hstate⟩ := ha.ok i m h
    obtain ⟨hresult', hstate'⟩ := ha.ok _ m.tick hafter
    refine ⟨rfl, hresult'.trans hresult.symm, ?_⟩
    rw [hstate', hstate]
    rfl

/-! ### Ticks or keys, and steps -/

/-- An operation that changes the machine in a way that a fetch does not notice passes a step
    exactly if the change can be put off until after the instruction. -/
theorem passes_step_iff {a : Operation} {f : Machine → Machine} (hf : Unnoticed f)
    (ha : (perform a i).result = .ok none ∧ (perform a i).state = onMachine f i)
    (hlater : (perform a (perform .step i).state).result = .ok none ∧
      (perform a (perform .step i).state).state = onMachine f (perform .step i).state) :
    Passes i a .step ↔ ∀ op ∈ attempted? i .step,
      (f i.advance.machine).execute (ByteSource.next i.source).1 op =
        (i.advance.machine.execute (ByteSource.next i.source).1 op).map f := by
  constructor
  · intro hpasses op hop
    have hresult := hpasses.second
    have hstate := hpasses.state
    rw [ha.2] at hresult
    rw [ha.2, hlater.2] at hstate
    have hop' : attempted? (onMachine f i) .step = some op := (hf.attempted i).trans hop
    have hadvance : ((onMachine f i).atExecution .step).machine = f i.advance.machine :=
      congrArg machine (hf.advance_onMachine i)
    -- both orders come to this instruction, and what becomes of it is what they answer
    rcases (perform_outcome i .step).of_attempted hop with
      ⟨m, hexecute, hok, hleft⟩ | ⟨fault, hexecute, hrefused, -⟩
    · rcases (perform_outcome (onMachine f i) .step).of_attempted hop' with
        ⟨m', hexecute', -, hleft'⟩ | ⟨fault', -, hrefused', -⟩
      · rw [hadvance] at hexecute'
        rw [hleft, hleft'] at hstate
        have hm : m' = f m := congrArg machine hstate
        exact hexecute'.trans (hm ▸ congrArg (Except.map f) hexecute.symm)
      · rw [hok, hrefused'] at hresult
        cases hresult
    · rcases (perform_outcome (onMachine f i) .step).of_attempted hop' with
        ⟨m', -, hok', -⟩ | ⟨fault', hexecute', hrefused', -⟩
      · rw [hrefused, hok'] at hresult
        cases hresult
      · rw [hadvance] at hexecute'
        rw [hrefused, hrefused'] at hresult
        cases hresult
        exact hexecute'.trans (congrArg (Except.map f) hexecute.symm)
  · intro h
    obtain ⟨hresult, hstate⟩ := step_onMachine hf h
    refine ⟨hlater.1.trans ha.1.symm, ?_, ?_⟩
    · rw [ha.2, perform_step, perform_step, hresult]
    · rw [ha.2, hlater.2, perform_step, perform_step, hstate]

/-- What is never done passes everything. -/
theorem Does.passes_of_refused {a b : Operation} {f : Machine → Except Fault Machine}
    (ha : Does σ a f) {fault : Fault} (h : ∀ m, f m = .error fault) (i : Interpreter σ) :
    Passes i a b := by
  have hnever : ∀ i : Interpreter σ,
      (perform a i).result = .error fault ∧ (perform a i).state = i :=
    fun i => ha.error i fault (h i.machine)
  refine ⟨?_, ?_, ?_⟩
  · rw [(hnever _).1, (hnever i).1]
  · rw [(hnever i).2]
  · rw [(hnever i).2, (hnever _).2]

omit [ByteSource σ] in
theorem unnoticed_setKey (k : Fin 16) (held : Bool) : Unnoticed (·.setKey k held) where
  mode _ := rfl
  pc _ := rfl
  ram _ := rfl
  advance _ _ := rfl

/-- A tick and a step interfere exactly where the instruction is about a timer that counts. -/
theorem tick_passes_step_iff :
    Passes i .tick .step ↔ ∀ op ∈ attempted? i .step, ¬ i.machine.Times op := by
  rw [passes_step_iff unnoticed_tick ⟨rfl, rfl⟩ ⟨rfl, rfl⟩]
  apply forall₂_congr
  intro op hop
  exact i.advance.machine.execute_tick_iff _ op

theorem tick_passes_step (h : ∀ op ∈ attempted? i .step, op.sparesTimers = true) :
    Passes i .tick .step :=
  tick_passes_step_iff.mpr fun op hop => Machine.not_times_of_sparesTimers (h op hop)

/-- A key that goes up and a step interfere exactly where the instruction asks for a key that is
    down. -/
theorem keyUp_passes_step_iff (key : UInt8) :
    Passes i (.keyUp key) .step ↔
      ∀ op ∈ attempted? i .step, ¬ (i.machine.AsksFor key op ∧ i.machine.Latched key true) := by
  by_cases hkey : key.toNat < 16
  · let k : Fin 16 := ⟨key.toNat, hkey⟩
    have hup : ∀ i : Interpreter σ, (perform (.keyUp key) i).result = .ok none ∧
        (perform (.keyUp key) i).state = onMachine (·.setKey k false) i :=
      fun i => (does_keyUp key).ok i _ (Machine.keyUp_ok_iff.mpr ⟨hkey, rfl⟩)
    rw [passes_step_iff (unnoticed_setKey k false) (hup i) (hup _),
      Machine.latched_iff (k := k) rfl]
    apply forall₂_congr
    intro op hop
    rw [← Bool.not_eq_false]
    exact i.advance.machine.execute_setKey_iff _ op false rfl
  · -- there is no such key, so neither side has anything to do
    have hinvalid : 15 < key.toNat := by omega
    apply iff_of_true
    · exact (does_keyUp key).passes_of_refused
        (fun m => (Machine.keyUp_error_iff key _).mpr ⟨hinvalid, rfl⟩) i
    · intro op hop h
      exact hkey h.2.1

/-- On a running machine a key that goes down closes its latch and does no more. -/
theorem keyDown_of_running {key : UInt8} (hkey : key.toNat < 16)
    (hrunning : i.machine.mode = .running) :
    (perform (.keyDown key) i).result = .ok none ∧
      (perform (.keyDown key) i).state = onMachine (·.setKey ⟨key.toNat, hkey⟩ true) i := by
  have hpressed : i.machine.pressed key ⟨key.toNat, hkey⟩ =
      i.machine.setKey ⟨key.toNat, hkey⟩ true := by
    unfold Machine.pressed
    rw [hrunning]
  exact (does_keyDown key).ok i _ (Machine.keyDown_ok_iff.mpr ⟨hkey, hpressed.symm⟩)

/-- A key that goes down does not pass a step that parks the machine: if it comes later the machine
    runs on, and if it comes first the machine stays parked. -/
theorem not_passes_of_waitKey {key x : UInt8} (hkey : key.toNat < 16)
    (hop : attempted? i .step = some (.waitKey x)) : ¬ Passes i (.keyDown key) .step := by
  intro hpasses
  have hwoken : (perform (.keyDown key) (perform .step i).state).state.machine.mode = .running := by
    obtain ⟨-, hstate⟩ := (does_keyDown key).ok (perform .step i).state _
      (Machine.keyDown_ok_iff.mpr ⟨hkey, rfl⟩)
    rw [hstate]
    exact Machine.pressed_mode _ key _
  have hparked : (perform .step (perform (.keyDown key) i).state).state.machine.mode =
      .awaitingKey x := by
    obtain ⟨hrunning, -⟩ := fetch_of_attempted hop
    rw [(keyDown_of_running hkey hrunning).2]
    have hop' := ((unnoticed_setKey ⟨key.toNat, hkey⟩ true).attempted i).trans hop
    obtain ⟨-, hstate⟩ := (perform_outcome _ .step).of_execute hop' rfl
    rw [hstate]
  rw [hpasses.state, hwoken] at hparked
  cases hparked

/-- A key that goes down on a running machine and a step interfere exactly where the instruction
    parks the machine, or asks for a key that is up. -/
theorem keyDown_passes_step_iff (key : UInt8) (hrunning : i.machine.mode = .running) :
    Passes i (.keyDown key) .step ↔ 15 < key.toNat ∨
      (∀ x, attempted? i .step ≠ some (.waitKey x)) ∧
      ∀ op ∈ attempted? i .step, ¬ (i.machine.AsksFor key op ∧ i.machine.Latched key false) := by
  by_cases hkey : key.toNat < 16
  · let k : Fin 16 := ⟨key.toNat, hkey⟩
    have hsetKey : (∀ x, attempted? i .step ≠ some (.waitKey x)) →
        (Passes i (.keyDown key) .step ↔ ∀ op ∈ attempted? i .step,
          ¬ (i.machine.AsksFor key op ∧ i.machine.Latched key false)) := by
      intro hwait
      -- a parked machine does more with a key than to close its latch, so it has to run on
      have hstill : (perform .step i).state.machine.mode = .running :=
        (perform_outcome i .step).running hrunning hwait
      rw [passes_step_iff (unnoticed_setKey k true) (keyDown_of_running hkey hrunning)
        (keyDown_of_running hkey hstill), Machine.latched_iff (k := k) rfl]
      apply forall₂_congr
      intro op hop
      rw [← Bool.not_eq_true]
      exact i.advance.machine.execute_setKey_iff _ op true rfl
    constructor
    · intro hpasses
      have hwait : ∀ x, attempted? i .step ≠ some (.waitKey x) :=
        fun x hop => not_passes_of_waitKey hkey hop hpasses
      exact .inr ⟨hwait, (hsetKey hwait).mp hpasses⟩
    · rintro (hinvalid | ⟨hwait, h⟩)
      · omega
      · exact (hsetKey hwait).mpr h
  · have hinvalid : 15 < key.toNat := by omega
    apply iff_of_true
    · exact (does_keyDown key).passes_of_refused
        (fun m => (Machine.keyDown_error_iff key _).mpr ⟨hinvalid, rfl⟩) i
    · exact .inl hinvalid

/-! ## Section 3: Any number of ticks and steps -/

/-- What the steps of a history answer, in their order. -/
def stepAnswers : List Operation → Interpreter σ → List (Except Fault (Option Nat))
  | [], _ => []
  | operation :: later, i =>
    let turn := perform operation i
    (if operation = .step then [turn.result] else []) ++ stepAnswers later turn.state

/-- The histories cannot be told apart on this interpreter: they come to the same instructions,
    their steps answer the same, and they lead to the same interpreter. -/
structure Agree (history history' : List Operation) (i : Interpreter σ) : Prop where
  attempts : attempts history' i = attempts history i
  answers : stepAnswers history' i = stepAnswers history i
  state : run history' i = run history i

/-- Two operations that pass each other can change places at the front of a history, if one of them
    is a step that comes to the same instruction and the other comes to none. -/
theorem agree_exchange {a : Operation} (hpasses : Passes i a .step) (ha : a ≠ .step)
    (hnone : ∀ i : Interpreter σ, attempted? i a = none)
    (hsame : attempted? (perform a i).state .step = attempted? i .step) (later : List Operation) :
    Agree (a :: .step :: later) (.step :: a :: later) i where
  attempts := by
    simp only [Interpreter.attempts, hnone, hsame, hpasses.state, Option.toList_none,
      List.nil_append]
  answers := by
    simp only [stepAnswers, ha, if_true, if_false, hpasses.second, hpasses.state, List.nil_append]
  state := by
    rw [run_cons, run_cons, run_cons, run_cons, hpasses.state]

theorem Agree.symm {history history' : List Operation} (h : Agree history history' i) :
    Agree history' history i :=
  ⟨h.attempts.symm, h.answers.symm, h.state.symm⟩

theorem Agree.trans {first second third : List Operation} (h : Agree first second i)
    (h' : Agree second third i) : Agree first third i :=
  ⟨h'.attempts.trans h.attempts, h'.answers.trans h.answers, h'.state.trans h.state⟩

theorem Agree.cons {history history' : List Operation} {operation : Operation}
    (h : Agree history history' (perform operation i).state) :
    Agree (operation :: history) (operation :: history') i where
  attempts := by rw [Interpreter.attempts, Interpreter.attempts, h.attempts]
  answers := by rw [stepAnswers, stepAnswers, h.answers]
  state := h.state

/-- Histories of ticks and steps in different orders cannot be told apart, if the instructions of
    one of them spare the timers. -/
theorem agree_of_perm {history history' : List Operation} (hperm : history.Perm history') :
    ∀ i : Interpreter σ, (∀ operation ∈ history, operation = .tick ∨ operation = .step) →
      (∀ op ∈ attempts history i, op.sparesTimers = true) → Agree history history' i := by
  -- by induction on how one order comes from the other, neighbour by neighbour
  induction hperm with
  | nil =>
    intro i honly hspares
    exact ⟨rfl, rfl, rfl⟩
  | cons operation _ ih =>
    intro i honly hspares
    rw [List.forall_mem_cons] at honly
    rw [Interpreter.attempts, List.forall_mem_append] at hspares
    exact (ih _ honly.2 hspares.2).cons
  | swap a b later =>
    intro i honly hspares
    rw [List.forall_mem_cons, List.forall_mem_cons] at honly
    -- two neighbours of one kind are not told apart, and one tick and one step pass each other
    obtain ⟨rfl | rfl, rfl | rfl, -⟩ := honly
    · exact ⟨rfl, rfl, rfl⟩
    · have hpasses : Passes i .tick .step := by
        apply tick_passes_step
        intro op hop
        apply hspares
        exact List.mem_append_right _ (List.mem_append_left _ (Option.mem_toList.mpr hop))
      exact agree_exchange hpasses (by decide) (fun _ => rfl) rfl later
    · have hpasses : Passes i .tick .step := by
        apply tick_passes_step
        intro op hop
        apply hspares
        exact List.mem_append_left _ (Option.mem_toList.mpr hop)
      exact (agree_exchange hpasses (by decide) (fun _ => rfl) rfl later).symm
    · exact ⟨rfl, rfl, rfl⟩
  | trans hfirst _ ih ih' =>
    intro i honly hspares
    -- the order between comes to the same instructions, so these spare the timers as well
    have h := ih i honly hspares
    apply h.trans
    apply ih' i
    · intro operation hmem
      exact honly operation (hfirst.mem_iff.mpr hmem)
    · rw [h.attempts]
      exact hspares

/-! ## Section 4: The main result -/

/-- Operations interfere with a step only where its instruction says so. A tick passes a step
    unless the instruction reads or sets a timer, whether the step succeeds, fails or finds the
    machine parked; so of the orders in which the same ticks and steps can be done none can be told
    from another, if in one of them no instruction is about timers. A key that goes up passes a step
    unless the instruction skips on that key, and so does a key that goes down while the machine
    runs, unless the instruction waits for a key. A tick and a key pass each other always. -/
theorem interference_is_by_instruction (i : Interpreter σ) :
    ((∀ op ∈ attempted? i .step, op.sparesTimers = true) → Passes i .tick .step) ∧
    (∀ m n history history', Operation.Interleaves m n history →
      Operation.Interleaves m n history' →
      (∀ op ∈ attempts history i, op.sparesTimers = true) → Agree history history' i) ∧
    (∀ key, (∀ op ∈ attempted? i .step, ¬ i.machine.AsksFor key op) →
      Passes i (.keyUp key) .step) ∧
    (∀ key, i.machine.mode = .running → (∀ x, attempted? i .step ≠ some (.waitKey x)) →
      (∀ op ∈ attempted? i .step, ¬ i.machine.AsksFor key op) → Passes i (.keyDown key) .step) ∧
    (∀ key, Passes i .tick (.keyDown key)) ∧
    ∀ key, Passes i .tick (.keyUp key) := by
  refine ⟨tick_passes_step, ?_, ?_, ?_, ?_, ?_⟩
  · intro m n history history' hfirst hsecond hspares
    have honly : ∀ operation ∈ history, operation = .tick ∨ operation = .step := by
      intro operation hmem
      rw [hfirst.mem_iff, List.mem_append, List.mem_replicate, List.mem_replicate] at hmem
      exact hmem.imp And.right And.right
    exact agree_of_perm (hfirst.trans hsecond.symm) i honly hspares
  · intro key hother
    exact (keyUp_passes_step_iff key).mpr fun op hop h => hother op hop h.1
  · intro key hrunning hwait hother
    have hpasses := keyDown_passes_step_iff key hrunning
    exact hpasses.mpr (.inr ⟨hwait, fun op hop h => hother op hop h.1⟩)
  · intro key
    exact (does_keyDown key).tick_passes (fun m => m.keyDown_tick key) i
  · intro key
    exact (does_keyUp key).tick_passes (fun m => m.keyUp_tick key) i

/-- Three steps of which two fail, and a tick before or after them; and a step that skips on key 5,
    which key 6 passes in both directions. -/
theorem tick_among_failing_steps :
    let i : Interpreter Stride :=
      run [.load (.whole [0xe3, 0x9e, 0x00, 0xee]), .execute (.loadImm 3 5),
        .execute (.setDelay 3)] (fresh ⟨1, 0⟩)
    let history : List Operation := [.tick, .step, .step, .step]
    let history' : List Operation := [.step, .step, .step, .tick]
    (∀ op ∈ attempts history i, op.sparesTimers = true) ∧
    stepAnswers history' i = [.ok none, .error .stackUnderflow, .error (.unsupported 0)] ∧
    (run history' i).machine.delay = (run history i).machine.delay ∧
    Passes i (.keyUp 6) .step ∧ Passes i (.keyDown 6) .step := by
  intro i history history'
  obtain ⟨-, horders, hup, hdown, -, -⟩ := interference_is_by_instruction i
  have hfirst : Operation.Interleaves 1 3 history := by
    show List.Perm _ _
    decide
  have hsecond : Operation.Interleaves 1 3 history' := by
    show List.Perm _ _
    decide
  have hspares : ∀ op ∈ attempts history i, op.sparesTimers = true := by decide +kernel
  have hagree := horders 1 3 history history' hfirst hsecond hspares
  have hattempted : attempted? i .step = some (.skipKeyPressed 3) := by decide +kernel
  have hother : ∀ op ∈ attempted? i .step, ¬ i.machine.AsksFor 6 op := by
    rw [hattempted]
    rintro op ⟨⟩
    show i.machine.register 3 ≠ 6
    decide +kernel
  have hwait : ∀ x, attempted? i .step ≠ some (.waitKey x) := by
    rw [hattempted]
    intro x h
    cases h
  refine ⟨hspares, ?_, ?_, hup 6 hother, hdown 6 rfl hwait hother⟩
  · rw [hagree.answers]
    decide +kernel
  · rw [hagree.state]

end Interpreter

end Chip8
