import Chip8.Interpreter.Operation
import Chip8.Proofs.Machine.Footprint

/-! # What an operation can come to

    `Outcome` lists every way in which one operation can go: what it answers, and the interpreter it
    leaves. An instruction is treated once, whether a step has fetched it or it is executed from
    outside; the two differ only in the program counter that it starts with. Invariants of runs are
    proved by cases on the outcome, and `perform` and `step` need not be opened again.

    A run keeps whatever each operation keeps (`run_invariant`). -/

namespace Chip8

namespace Action

variable {S α β : Type}

/-- A call whose result is passed on through a function. -/
theorem andThen_done (x : Action S α) (g : α → β) (s : S) :
    andThen x (fun a => done (g a)) s = ⟨(x s).state, (x s).result.map g, (x s).acts⟩ := by
  cases h : (x s).result with
  | error fault => rw [andThen_error h]; rfl
  | ok a => rw [andThen_ok h]; simp [done, Except.map]

end Action

namespace Interpreter

/-! ### The instruction of an operation -/

section

variable {σ : Type}

/-- The interpreter that an operation's instruction is executed on. A step has moved the program
    counter past the word by then. -/
def atExecution (i : Interpreter σ) : Operation → Interpreter σ
  | .step => i.advance
  | _ => i

/-- A step comes to an instruction only if the machine runs and there is one at its program
    counter. -/
theorem fetch_of_attempted {i : Interpreter σ} {op : Opcode} (h : attempted? i .step = some op) :
    i.machine.mode = .running ∧ ∃ word, i.machine.fetch = .ok (word, op) := by
  simp only [attempted?] at h
  split at h
  · next word decoded hmode hfetch =>
    cases h
    exact ⟨hmode, word, hfetch⟩
  · cases h

end

variable {σ : Type} [ByteSource σ]

theorem execute_of_ok {i : Interpreter σ} {op : Opcode} {m : Machine}
    (h : i.machine.execute (ByteSource.next i.source).1 op = .ok m) :
    execute op i = ⟨⟨m, sourceAfter i.source op⟩, .ok (), notesOf op⟩ := by
  simp [execute, h]

theorem execute_of_error {i : Interpreter σ} {op : Opcode} {fault : Fault}
    (h : i.machine.execute (ByteSource.next i.source).1 op = .error fault) :
    execute op i = ⟨i, .error fault, []⟩ := by
  simp [execute, h]

/-- An instruction that is not refused leaves the machine that it makes. -/
theorem machine_of_execute_ok {i : Interpreter σ} {op : Opcode}
    (h : (execute op i).result = .ok ()) :
    ∃ after, i.machine.execute (ByteSource.next i.source).1 op = .ok after ∧
      (execute op i).state = ⟨after, sourceAfter i.source op⟩ := by
  cases hmachine : i.machine.execute (ByteSource.next i.source).1 op with
  | error fault =>
    rw [execute_of_error hmachine] at h
    cases h
  | ok after => exact ⟨after, rfl, by rw [execute_of_ok hmachine]⟩

/-! ### All outcomes -/

/-- The ways in which an operation on `i` can go: what it answers and what it leaves. -/
inductive Outcome (i : Interpreter σ) :
    Operation → Except Fault (Option Nat) → Interpreter σ → Prop
  /-- A program is put into a fresh machine. -/
  | loaded {program size ram} (h : Machine.fresh.ram.load program = .ok (size, ram)) :
    Outcome i (.load program) (.ok (some size)) { i with machine := { Machine.fresh with ram } }
  | notLoaded {program fault} (h : Machine.fresh.ram.load program = .error fault) :
    Outcome i (.load program) (.error fault) i
  /-- The machine waits for a key. -/
  | parked {register} (h : i.machine.mode = .awaitingKey register) :
    Outcome i .step (.ok none) i
  /-- There is no word at the program counter, or it is no instruction. -/
  | notFetched {fault} (hmode : i.machine.mode = .running)
      (h : i.machine.fetch = .error fault) :
    Outcome i .step (.error fault) i
  | executed {operation op m} (hop : attempted? i operation = some op)
      (h : (i.atExecution operation).machine.execute (ByteSource.next i.source).1 op = .ok m) :
    Outcome i operation (.ok none) ⟨m, sourceAfter i.source op⟩
  /-- The instruction is refused; under a step the program counter has moved already. -/
  | refused {operation op fault} (hop : attempted? i operation = some op)
      (h : (i.atExecution operation).machine.execute (ByteSource.next i.source).1 op =
        .error fault) :
    Outcome i operation (.error fault) (i.atExecution operation)
  | ticked : Outcome i .tick (.ok none) { i with machine := i.machine.tick }
  | keyWentDown {key m} (h : i.machine.keyDown key = .ok m) :
    Outcome i (.keyDown key) (.ok none) { i with machine := m }
  | noKeyDown {key fault} (h : i.machine.keyDown key = .error fault) :
    Outcome i (.keyDown key) (.error fault) i
  | keyWentUp {key m} (h : i.machine.keyUp key = .ok m) :
    Outcome i (.keyUp key) (.ok none) { i with machine := m }
  | noKeyUp {key fault} (h : i.machine.keyUp key = .error fault) :
    Outcome i (.keyUp key) (.error fault) i

theorem perform_load (program : Delivery) (i : Interpreter σ) :
    perform (.load program) i =
      ⟨(load program i).state, (load program i).result.map some, (load program i).acts⟩ :=
  Action.andThen_done (load program) some i

/-- Every other operation answers with nothing. -/
theorem perform_execute (op : Opcode) (i : Interpreter σ) :
    perform (.execute op) i =
      ⟨(execute op i).state, (execute op i).result.map fun _ => none, (execute op i).acts⟩ :=
  Action.andThen_done (execute op) (fun _ => none) i

theorem perform_step (i : Interpreter σ) :
    perform .step i = ⟨(step i).state, (step i).result.map fun _ => none, (step i).acts⟩ :=
  Action.andThen_done step (fun _ => none) i

theorem perform_keyDown (key : UInt8) (i : Interpreter σ) :
    perform (.keyDown key) i =
      ⟨(keyDown key i).state, (keyDown key i).result.map fun _ => none, (keyDown key i).acts⟩ :=
  Action.andThen_done (keyDown key) (fun _ => none) i

theorem perform_keyUp (key : UInt8) (i : Interpreter σ) :
    perform (.keyUp key) i =
      ⟨(keyUp key i).state, (keyUp key i).result.map fun _ => none, (keyUp key i).acts⟩ :=
  Action.andThen_done (keyUp key) (fun _ => none) i

theorem outcome_step (i : Interpreter σ) :
    Outcome i .step (perform .step i).result (perform .step i).state := by
  rw [perform_step]
  unfold step
  cases hmode : i.machine.mode with
  | awaitingKey register => exact .parked hmode
  | running =>
    cases hfetch : i.machine.fetch with
    | error fault => exact .notFetched hmode hfetch
    | ok fetched =>
      obtain ⟨word, op⟩ := fetched
      have hop : attempted? i .step = some op := by simp [attempted?, hmode, hfetch]
      cases hexecute : i.advance.machine.execute (ByteSource.next i.source).1 op with
      | error fault =>
        have hrefused := execute_of_error (i := i.advance) hexecute
        simp only [hrefused]
        exact .refused hop hexecute
      | ok m =>
        have hexecuted := execute_of_ok (i := i.advance) hexecute
        simp only [hexecuted]
        exact .executed hop hexecute

/-- Every operation goes in one of the listed ways. -/
theorem perform_outcome (i : Interpreter σ) (operation : Operation) :
    Outcome i operation (perform operation i).result (perform operation i).state := by
  cases operation with
  | step => exact outcome_step i
  | tick => exact .ticked
  | load program =>
    rw [perform_load]
    unfold load
    cases h : Machine.fresh.ram.load program with
    | error fault => exact .notLoaded h
    | ok loaded => exact .loaded h
  | execute op =>
    rw [perform_execute]
    have hop : attempted? i (.execute op) = some op := rfl
    cases h : i.machine.execute (ByteSource.next i.source).1 op with
    | error fault => rw [execute_of_error h]; exact .refused hop h
    | ok m => rw [execute_of_ok h]; exact .executed hop h
  | keyDown key =>
    rw [perform_keyDown]
    cases h : i.machine.keyDown key with
    | error fault => simp only [keyDown, become, h]; exact .noKeyDown h
    | ok m => simp only [keyDown, become, h]; exact .keyWentDown h
  | keyUp key =>
    rw [perform_keyUp]
    cases h : i.machine.keyUp key with
    | error fault => simp only [keyUp, become, h]; exact .noKeyUp h
    | ok m => simp only [keyUp, become, h]; exact .keyWentUp h

/-- An operation that comes to an instruction goes as the instruction does. -/
theorem Outcome.of_attempted {i j : Interpreter σ} {operation : Operation}
    {result : Except Fault (Option Nat)} {op : Opcode} (ho : Outcome i operation result j)
    (hop : attempted? i operation = some op) :
    (∃ m, (i.atExecution operation).machine.execute (ByteSource.next i.source).1 op = .ok m ∧
      result = .ok none ∧ j = ⟨m, sourceAfter i.source op⟩) ∨
    ∃ fault, (i.atExecution operation).machine.execute (ByteSource.next i.source).1 op =
      .error fault ∧ result = .error fault ∧ j = i.atExecution operation := by
  cases ho with
  | loaded | notLoaded | ticked | keyWentDown | noKeyDown | keyWentUp | noKeyUp => cases hop
  | parked hparked => simp [attempted?, hparked] at hop
  | notFetched hmode hfetch => simp [attempted?, hmode, hfetch] at hop
  | executed hop' hexecute =>
    rw [hop] at hop'
    cases hop'
    exact .inl ⟨_, hexecute, rfl, rfl⟩
  | refused hop' hexecute =>
    rw [hop] at hop'
    cases hop'
    exact .inr ⟨_, hexecute, rfl, rfl⟩

/-- If it is not refused, it answers with nothing and leaves what the instruction leaves. -/
theorem Outcome.of_execute {i j : Interpreter σ} {operation : Operation}
    {result : Except Fault (Option Nat)} {op : Opcode} {m : Machine}
    (ho : Outcome i operation result j) (hop : attempted? i operation = some op)
    (h : (i.atExecution operation).machine.execute (ByteSource.next i.source).1 op = .ok m) :
    result = .ok none ∧ j = ⟨m, sourceAfter i.source op⟩ := by
  rcases ho.of_attempted hop with ⟨after, hexecute, hresult, hj⟩ | ⟨fault, hexecute, -, -⟩
  · rw [h] at hexecute
    cases hexecute
    exact ⟨hresult, hj⟩
  · rw [h] at hexecute
    cases hexecute

/-! ### Runs -/

/-- What every operation keeps, a run keeps. -/
theorem run_invariant {P : Interpreter σ → Prop}
    (hstep : ∀ i operation, P i → P (perform operation i).state) (history : List Operation) :
    ∀ i, P i → P (run history i) := by
  induction history with
  | nil => exact fun i hi => hi
  | cons operation later ih => exact fun i hi => ih _ (hstep i operation hi)

end Interpreter

end Chip8
