import Chip8.Interpreter.Basic
import Chip8.Proofs.Device.Discreet

/-! # What the interpreter enters in the journal

    The journal tells how often the timers have counted down and how often a step succeeded. A step
    enters at most one act beside its notes, and that one only at its end: a journal with as many
    of them as there were to be steps is the journal of steps none of which failed. -/

namespace Chip8.Interpreter

variable {σ : Type}

/-! ### Ticks -/

@[simp] theorem ticks_result (count : Nat) (i : Interpreter σ) :
    (ticks count i).result = .ok () := by
  induction count generalizing i with
  | zero => rfl
  | succ count ih => exact ih (tick i).state

@[simp] theorem ticks_acts (count : Nat) (i : Interpreter σ) :
    (ticks count i).acts = List.replicate count .ticked := by
  induction count generalizing i with
  | zero => rfl
  | succ count ih => exact congrArg (Act.ticked :: ·) (ih (tick i).state)

/-! ### Steps -/

variable [ByteSource σ]

/-- What an instruction is worth telling. -/
theorem enters_execute (op : Opcode) :
    Action.Enters Act.IsNote (execute op : Action (Interpreter σ) Unit) := by
  intro i
  unfold execute
  split
  · exact nofun
  · cases op <;> simp [notesOf, Act.IsNote]

/-- A step leaves notes, and then, if it has succeeded, the act of a step. -/
theorem step_journal (i : Interpreter σ) :
    ∃ notes, (∀ act ∈ notes, act.IsNote) ∧
      ((step i).result = .ok () ∧ (step i).acts = notes ++ [.stepped] ∨
        (∃ fault, (step i).result = .error fault) ∧ (step i).acts = notes) := by
  unfold step
  cases i.machine.mode with
  | awaitingKey register => exact ⟨[], nofun, .inl ⟨rfl, rfl⟩⟩
  | running =>
    cases i.machine.fetch with
    | error fault => exact ⟨[], nofun, .inr ⟨⟨fault, rfl⟩, rfl⟩⟩
    | ok fetched =>
      obtain ⟨word, op⟩ := fetched
      let notes := Act.note (.fetched i.machine.pc word op) :: (execute op i.advance).acts
      have hnotes : ∀ act ∈ notes, act.IsNote := by
        rw [List.forall_mem_cons]
        exact ⟨⟨_, rfl⟩, enters_execute op i.advance⟩
      refine ⟨notes, hnotes, ?_⟩
      cases h : (execute op i.advance).result with
      | error fault => simp [h, notes]
      | ok result => simp [h, notes]

theorem count_stepped_notes {notes : List Act} (h : ∀ act ∈ notes, act.IsNote) :
    notes.count .stepped = 0 := by
  rw [List.count_eq_zero]
  intro hmem
  obtain ⟨n, hn⟩ := h _ hmem
  cases hn

/-- What becomes of up to `count` steps. -/
structure Progress (count succeeded : Nat) (turn : Turn (Interpreter σ) Unit) : Prop where
  /-- Each success is in the journal. -/
  stepped : turn.acts.count .stepped = succeeded
  /-- Nothing else is but notes. -/
  acts : ∀ act ∈ turn.acts, act.IsNote ∨ act = .stepped
  /-- Either all of them succeeded, or one that was still to be done has failed. -/
  complete : turn.result = .ok () ∧ succeeded = count ∨
    (∃ fault, turn.result = .error fault) ∧ succeeded < count

theorem steps_progress (count : Nat) (i : Interpreter σ) :
    Progress count (steps count i).1 (steps count i).2 := by
  induction count generalizing i with
  | zero => exact ⟨rfl, nofun, .inl ⟨rfl, rfl⟩⟩
  | succ count ih =>
    obtain ⟨notes, hnotes, ⟨hok, hacts⟩ | ⟨⟨fault, hfault⟩, hacts⟩⟩ := step_journal i
    -- the first step succeeds, and the others go on from where it has got to
    · obtain ⟨hstepped, hrest, hcomplete⟩ := ih (step i).state
      simp only [steps, hok, hacts]
      refine ⟨?_, ?_, ?_⟩
      · simp only [List.count_append, count_stepped_notes hnotes, hstepped,
          List.count_singleton_self]
        omega
      · rw [List.forall_mem_append, List.forall_mem_append, List.forall_mem_singleton]
        exact ⟨⟨fun act hact => .inl (hnotes act hact), .inr rfl⟩, hrest⟩
      · rcases hcomplete with ⟨hresult, hall⟩ | ⟨hresult, hsome⟩
        · exact .inl ⟨hresult, congrArg (· + 1) hall⟩
        · exact .inr ⟨hresult, Nat.succ_lt_succ hsome⟩
    -- the first step fails, and there are no others
    · simp only [steps, hfault, hacts]
      exact ⟨count_stepped_notes hnotes, fun act hact => .inl (hnotes act hact),
        .inr ⟨⟨fault, rfl⟩, Nat.succ_pos count⟩⟩

end Chip8.Interpreter
