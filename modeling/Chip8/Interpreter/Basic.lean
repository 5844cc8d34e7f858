import Chip8.ByteSource
import Chip8.Ram.Load
import Chip8.Machine.Execute
import Chip8.Turn

/-! # The interpreter

    A machine together with the source of its random bytes. It can be loaded, stepped, ticked and
    told about keys, each as a turn. Nothing here knows about clocks or terminals.

    A step moves the program counter on before it executes. So where the fetch fails the program
    counter names the failing word, and where the execution fails it points past it. -/

namespace Chip8

/-- A machine and the source of its random bytes. -/
structure Interpreter (σ : Type) where
  /-- The machine. -/
  machine : Machine
  /-- Where random bytes come from. -/
  source : σ

namespace Interpreter

variable {σ : Type}

/-- A fresh machine with a source. -/
def fresh (source : σ) : Interpreter σ := ⟨.fresh, source⟩

/-- The turn that leads to a new machine, or to a fault with the old one. -/
def become (i : Interpreter σ) (machine : Except Fault Machine) (acts : List Act) :
    Turn (Interpreter σ) Unit :=
  match machine with
  | .ok machine => ⟨{ i with machine }, .ok (), acts⟩
  | .error fault => ⟨i, .error fault, []⟩

/-- A program is put into a fresh machine; its size is the result. A program that cannot be loaded
    leaves the old machine as it was. -/
def load (program : Delivery) : Action (Interpreter σ) Nat := fun i =>
  match Machine.fresh.ram.load program with
  | .error fault => ⟨i, .error fault, []⟩
  | .ok (size, ram) =>
    ⟨{ i with machine := { Machine.fresh with ram } }, .ok size,
      [.note (.loaded size ram.programAddr)]⟩

/-- The source after an instruction: only a random number takes a byte from it. -/
def sourceAfter [ByteSource σ] (source : σ) : Opcode → σ
  | .random .. => (ByteSource.next source).2
  | _ => source

/-- The notes that an instruction leaves. -/
def notesOf : Opcode → List Act
  | .waitKey x => [.note (.waiting x)]
  | _ => []

/-- One instruction is executed, wherever it came from. -/
def execute [ByteSource σ] (op : Opcode) : Action (Interpreter σ) Unit := fun i =>
  match i.machine.execute (ByteSource.next i.source).1 op with
  | .error fault => ⟨i, .error fault, []⟩
  | .ok machine => ⟨⟨machine, sourceAfter i.source op⟩, .ok (), notesOf op⟩

/-- The program counter moves past the word that was fetched. -/
def advance (i : Interpreter σ) : Interpreter σ :=
  { i with machine := { i.machine with pc := i.machine.pc + 2 } }

/-- The instruction at the program counter is executed, unless the machine waits for a key. -/
def step [ByteSource σ] : Action (Interpreter σ) Unit := fun i =>
  match i.machine.mode with
  | .awaitingKey _ => ⟨i, .ok (), [.stepped]⟩
  | .running =>
    match i.machine.fetch with
    | .error fault => ⟨i, .error fault, []⟩
    | .ok (word, op) =>
      let fetched := Act.note (.fetched i.machine.pc word op)
      let turn := execute op i.advance
      match turn.result with
      | .error fault => ⟨turn.state, .error fault, fetched :: turn.acts⟩
      | .ok () => ⟨turn.state, .ok (), fetched :: turn.acts ++ [.stepped]⟩

/-- Up to `count` steps, ended by the first that fails: how many succeeded, and the turn they make
    together. -/
def steps [ByteSource σ] : Nat → Interpreter σ → Nat × Turn (Interpreter σ) Unit
  | 0, i => (0, ⟨i, .ok (), []⟩)
  | count + 1, i =>
    let first := step i
    match first.result with
    | .error fault => (0, ⟨first.state, .error fault, first.acts⟩)
    | .ok () =>
      let (succeeded, rest) := steps count first.state
      (succeeded + 1, ⟨rest.state, rest.result, first.acts ++ rest.acts⟩)

/-- Both timers count down. -/
def tick : Action (Interpreter σ) Unit := fun i =>
  ⟨{ i with machine := i.machine.tick }, .ok (), [.ticked]⟩

/-- `count` ticks. -/
def ticks : Nat → Interpreter σ → Turn (Interpreter σ) Unit
  | 0, i => ⟨i, .ok (), []⟩
  | count + 1, i =>
    let rest := ticks count (tick i).state
    ⟨rest.state, rest.result, (tick i).acts ++ rest.acts⟩

/-- A key goes down. -/
def keyDown (key : UInt8) : Action (Interpreter σ) Unit := fun i =>
  let resumed := match i.machine.mode with
    | .awaitingKey r => [Act.note (.resumed key r)]
    | .running => []
  i.become (i.machine.keyDown key) (resumed ++ [.pressed key])

/-- A key goes up. -/
def keyUp (key : UInt8) : Action (Interpreter σ) Unit := fun i =>
  i.become (i.machine.keyUp key) [.released key]

end Interpreter

end Chip8
