import Chip8.Proofs.Interpreter.Outcome

/-! # Key latches

    Instructions read the latches of keys and never change them, and neither do ticks. A key event
    changes the latch of its own key and no other, if there is such a key. So from one load to the
    next a latch is what the key events of a run make of it, in their order. -/

namespace Chip8

/-- What an operation makes of the latch of a key. A load is not considered here. -/
def Operation.latch (k : Fin 16) (held : Bool) : Operation → Bool
  | .keyDown key => held || decide (key.toNat = k)
  | .keyUp key => held && decide (key.toNat ≠ k)
  | .load _ | .step | .execute _ | .tick => held

/-- Is this a load? -/
def Operation.isLoad : Operation → Bool
  | .load _ => true
  | _ => false

namespace Machine

variable {m after : Machine}

theorem skipIf_keys (m : Machine) (condition : Bool) : (m.skipIf condition).keys = m.keys := by
  cases condition <;> rfl

/-- No instruction changes a latch. -/
theorem execute_keys {byte : UInt8} {op : Opcode} (h : m.execute byte op = .ok after) :
    after.keys = m.keys := by
  cases op with
  -- two instructions read the latches, so these are in their footprint
  | skipKeyPressed x | skipKeyNotPressed x =>
    simp only [execute] at h
    cases hkey : key (m.register x) with
    | error fault =>
      rw [hkey] at h
      cases h
    | ok k =>
      rw [hkey] at h
      cases h
      exact skipIf_keys m _
  | _ =>
    have hgraft := graft_of_execute .keys h (by simp [Opcode.footprint])
    exact (congrArg Machine.keys hgraft).symm

theorem keys_setKey (m : Machine) (key k : Fin 16) (held : Bool) :
    (m.setKey key held).keys.get k = if key.val = k then held else m.keys.get k :=
  Vector.getElem_set key.isLt k.isLt

theorem pressed_keys (m : Machine) (number : UInt8) (k : Fin 16) :
    (m.pressed number k).keys = (m.setKey k true).keys := by
  unfold pressed
  cases m.mode <;> rfl

end Machine

namespace Interpreter

variable {σ : Type} {i j : Interpreter σ} {operation : Operation}
  {result : Except Fault (Option Nat)}

/-- What comes to an instruction is no key event. -/
theorem latch_of_attempted {op : Opcode} (hop : attempted? i operation = some op) (k : Fin 16)
    (held : Bool) : operation.latch k held = held := by
  cases operation with
  | step | execute op => rfl
  | load | tick | keyDown | keyUp => cases hop

theorem keys_atExecution (i : Interpreter σ) (operation : Operation) :
    (i.atExecution operation).machine.keys = i.machine.keys := by
  cases operation <;> rfl

/-- Ticks leave the latches as they are. -/
theorem keys_ticks (count : Nat) (i : Interpreter σ) :
    (ticks count i).state.machine.keys = i.machine.keys := by
  induction count generalizing i with
  | zero => rfl
  | succ count ih => exact ih (tick i).state

variable [ByteSource σ]

theorem Outcome.latch (ho : Outcome i operation result j) (hload : operation.isLoad = false)
    (k : Fin 16) : j.machine.keys.get k = operation.latch k (i.machine.keys.get k) := by
  cases ho with
  | loaded | notLoaded => cases hload
  | parked | notFetched | ticked => rfl
  | @executed _ op m hop hexecute =>
    have hkeys : m.keys = i.machine.keys :=
      (Machine.execute_keys hexecute).trans (keys_atExecution i operation)
    rw [latch_of_attempted hop]
    exact congrArg (·.get k) hkeys
  | refused hop =>
    rw [latch_of_attempted hop]
    exact congrArg (·.get k) (keys_atExecution i operation)
  | @keyWentDown key m hdown =>
    obtain ⟨hvalid, rfl⟩ := Machine.keyDown_ok_iff.mp hdown
    rw [Machine.pressed_keys, Machine.keys_setKey, Operation.latch]
    by_cases hk : key.toNat = k
    · simp [hk]
    · simp [hk]
  | @noKeyDown key fault hdown =>
    obtain ⟨hinvalid, -⟩ := (Machine.keyDown_error_iff _ _).mp hdown
    have hk : key.toNat ≠ k := by omega
    simp [Operation.latch, hk]
  | @keyWentUp key m hup =>
    obtain ⟨hvalid, rfl⟩ := Machine.keyUp_ok_iff.mp hup
    rw [Machine.keys_setKey, Operation.latch]
    by_cases hk : key.toNat = k
    · simp [hk]
    · simp [hk]
  | @noKeyUp key fault hup =>
    obtain ⟨hinvalid, -⟩ := (Machine.keyUp_error_iff _ _).mp hup
    have hk : key.toNat ≠ k := by omega
    simp [Operation.latch, hk]

/-- The same along a history. -/
theorem latch_run {history : List Operation}
    (hload : ∀ operation ∈ history, operation.isLoad = false)
    (i : Interpreter σ) (k : Fin 16) :
    (run history i).machine.keys.get k =
      history.foldl (fun held operation => operation.latch k held) (i.machine.keys.get k) := by
  induction history generalizing i with
  | nil => rfl
  | cons operation later ih =>
    rw [List.forall_mem_cons] at hload
    rw [run_cons, ih hload.2, (perform_outcome i operation).latch hload.1 k, List.foldl_cons]

/-- Steps leave the latches as they are, whether they succeed or not. -/
theorem keys_step (i : Interpreter σ) : (step i).state.machine.keys = i.machine.keys := by
  have houtcome := outcome_step i
  rw [perform_step] at houtcome
  exact Vector.ext fun k hk => houtcome.latch rfl ⟨k, hk⟩

theorem keys_steps (count : Nat) (i : Interpreter σ) :
    (steps count i).2.state.machine.keys = i.machine.keys := by
  induction count generalizing i with
  | zero => rfl
  | succ count ih =>
    cases hresult : (step i).result with
    | error fault =>
      simp only [steps, hresult]
      exact keys_step i
    | ok _ =>
      simp only [steps, hresult]
      exact (ih _).trans (keys_step i)

end Interpreter

end Chip8
