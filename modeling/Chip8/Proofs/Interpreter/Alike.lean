import Chip8.Proofs.Interpreter.Outcome
import Chip8.Proofs.Machine.Alike

/-! # Interpreters that cannot be told apart

    If whatever is done to two machines does alike on both, then it does so on two interpreters that
    have these machines and one source: each operation answers the same on both and leaves
    interpreters of the same kind. So does every history. -/

namespace Chip8.Interpreter

variable {σ : Type}

/-- The machines are in this relation, and the sources are the same. -/
structure Related (R : Machine → Machine → Prop) (i j : Interpreter σ) : Prop where
  machine : R i.machine j.machine
  source : j.source = i.source

/-- Both turns answer the same and leave related interpreters. -/
structure Alike {α : Type} (R : Machine → Machine → Prop) (t u : Turn (Interpreter σ) α) :
    Prop where
  result : u.result = t.result
  state : Related R t.state u.state

variable {R : Machine → Machine → Prop} {i j : Interpreter σ}

/-- What is done with the answers makes no difference. -/
theorem Alike.map {α β : Type} {t u : Turn (Interpreter σ) α} (h : Alike R t u) (f : α → β) :
    Alike R (⟨t.state, t.result.map f, t.acts⟩ : Turn (Interpreter σ) β)
      ⟨u.state, u.result.map f, u.acts⟩ :=
  ⟨congrArg (Except.map f) h.result, h.state⟩

/-! ### One operation -/

/-- A change of the machine that does alike on both. -/
theorem Related.become (h : Related R i j) {a b : Except Fault Machine}
    (halike : Machine.Alike R a b) (acts acts' : List Act) :
    Alike R (i.become a acts) (j.become b acts') := by
  rcases halike with ⟨fault, rfl, rfl⟩ | ⟨m, m', rfl, rfl, hm⟩
  · exact ⟨rfl, h⟩
  · exact ⟨rfl, hm, h.source⟩

theorem Related.load (h : Related R i j) (hR : Machine.Bisimulation R) (program : Delivery) :
    Alike R (load program i) (load program j) := by
  unfold Interpreter.load
  cases Machine.fresh.ram.load program with
  | error fault => exact ⟨rfl, h⟩
  | ok loaded => exact ⟨rfl, hR.refl _, h.source⟩

variable [ByteSource σ]

theorem Related.execute (h : Related R i j) (hR : Machine.Bisimulation R) (op : Opcode) :
    Alike R (execute op i) (execute op j) := by
  have halike := hR.execute h.machine (ByteSource.next i.source).1 op
  rcases halike with ⟨fault, hi, hj⟩ | ⟨m, m', hi, hj, hm⟩
  · rw [← h.source] at hj
    rw [execute_of_error hi, execute_of_error hj]
    exact ⟨rfl, h⟩
  · rw [← h.source] at hj
    rw [execute_of_ok hi, execute_of_ok hj]
    exact ⟨rfl, hm, congrArg (sourceAfter · op) h.source⟩

theorem Related.step (h : Related R i j) (hR : Machine.Bisimulation R) :
    Alike R (step i) (step j) := by
  have hrunning := hR.running_iff h.machine
  unfold Interpreter.step
  cases hi : i.machine.mode with
  | awaitingKey register =>
    cases hj : j.machine.mode with
    | awaitingKey register' => exact ⟨rfl, h⟩
    | running => cases hi.symm.trans (hrunning.mp hj)
  | running =>
    rw [hrunning.mpr hi, hR.fetch_eq h.machine]
    cases i.machine.fetch with
    | error fault => exact ⟨rfl, h⟩
    | ok fetched =>
      -- both fetch the same word, and both have moved past it
      have hadvanced : Related R i.advance j.advance := ⟨hR.advance h.machine, h.source⟩
      obtain ⟨hresult, hstate⟩ := hadvanced.execute hR fetched.2
      simp only [hresult]
      cases (Interpreter.execute fetched.2 i.advance).result with
      | error fault => exact ⟨rfl, hstate⟩
      | ok _ => exact ⟨rfl, hstate⟩

theorem Related.perform (h : Related R i j) (hR : Machine.Bisimulation R) (operation : Operation) :
    Alike R (perform operation i) (perform operation j) := by
  cases operation with
  | load program =>
    rw [perform_load, perform_load]
    exact (h.load hR program).map some
  | step =>
    rw [perform_step, perform_step]
    exact (h.step hR).map _
  | execute op =>
    rw [perform_execute, perform_execute]
    exact (h.execute hR op).map _
  | tick => exact ⟨rfl, hR.tick h.machine, h.source⟩
  | keyDown key =>
    rw [perform_keyDown, perform_keyDown]
    exact (h.become (hR.keyDown h.machine key) _ _).map _
  | keyUp key =>
    rw [perform_keyUp, perform_keyUp]
    exact (h.become (hR.keyUp h.machine key) _ _).map _

/-! ### Histories -/

/-- No history can tell related interpreters apart. -/
theorem Related.run (h : Related R i j) (hR : Machine.Bisimulation R) (history : List Operation) :
    answers history j = answers history i ∧ Related R (run history i) (run history j) := by
  induction history generalizing i j with
  | nil => exact ⟨rfl, h⟩
  | cons operation later ih =>
    obtain ⟨hresult, hstate⟩ := h.perform hR operation
    obtain ⟨hanswers, hlast⟩ := ih hstate
    refine ⟨?_, hlast⟩
    simp only [answers, hresult, hanswers]

end Chip8.Interpreter
