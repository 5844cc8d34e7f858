import Chip8.Interpreter.Basic

/-! # Histories

    Everything that can be done to an interpreter from outside is one of six operations, and a
    history is a list of them. A refused operation does not end a history: whoever holds the
    interpreter may go on with whatever it was left as. -/

namespace Chip8

/-- Something that can be done to an interpreter. -/
inductive Operation where
  | load (program : Delivery)
  | step
  | execute (op : Opcode)
  | tick
  | keyDown (key : UInt8)
  | keyUp (key : UInt8)
  deriving DecidableEq

namespace Interpreter

variable {σ : Type} [ByteSource σ]

/-- One operation. A load answers with the size of the program, everything else with nothing. -/
def perform : Operation → Action (Interpreter σ) (Option Nat)
  | .load program => do return some (← load program)
  | .step => do step; return none
  | .execute op => do execute op; return none
  | .tick => do tick; return none
  | .keyDown key => do keyDown key; return none
  | .keyUp key => do keyUp key; return none

/-- The interpreter after a history. -/
def run : List Operation → Interpreter σ → Interpreter σ
  | [], i => i
  | operation :: later, i => run later (perform operation i).state

/-- What each operation of a history answers. -/
def answers : List Operation → Interpreter σ → List (Except Fault (Option Nat))
  | [], _ => []
  | operation :: later, i =>
    let turn := perform operation i
    turn.result :: answers later turn.state

/-- The instruction that an operation comes to on this interpreter, if it comes to one. -/
def attempted? (i : Interpreter σ) : Operation → Option Opcode
  | .execute op => some op
  | .step =>
    match i.machine.mode, i.machine.fetch with
    | .running, .ok (_, op) => some op
    | _, _ => none
  | _ => none

/-- The instructions that a history comes to, in order. -/
def attempts : List Operation → Interpreter σ → List Opcode
  | [], _ => []
  | operation :: later, i =>
    (attempted? i operation).toList ++ attempts later (perform operation i).state

/-- Interpreters that a history leads to from power-on, with this source to start with. -/
def Reachable (source : σ) (i : Interpreter σ) : Prop :=
  ∃ history, run history (fresh source) = i

/-! ### Small laws -/

@[simp] theorem run_nil (i : Interpreter σ) : run [] i = i := rfl

@[simp] theorem run_cons (operation : Operation) (later : List Operation) (i : Interpreter σ) :
    run (operation :: later) i = run later (perform operation i).state := rfl

theorem run_append (earlier later : List Operation) (i : Interpreter σ) :
    run (earlier ++ later) i = run later (run earlier i) := by
  induction earlier generalizing i with
  | nil => rfl
  | cons operation rest ih => exact ih (perform operation i).state

@[simp] theorem length_answers (history : List Operation) (i : Interpreter σ) :
    (answers history i).length = history.length := by
  induction history generalizing i with
  | nil => rfl
  | cons operation rest ih => simp [answers, ih]

theorem Reachable.perform {source : σ} {i : Interpreter σ} (h : Reachable source i)
    (operation : Operation) : Reachable source (perform operation i).state := by
  obtain ⟨history, rfl⟩ := h
  exact ⟨history ++ [operation], run_append history [operation] (fresh source)⟩

end Interpreter

end Chip8
