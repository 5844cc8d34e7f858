import Chip8.Ram.Font
import Chip8.Picture.Basic

/-! # The machine

    Sixteen registers, an index, a program counter, a stack of sixteen return addresses, memory, two
    timers, sixteen key latches and a picture. A machine is either running or parked until a key
    goes down.

    Register operands count only modulo 16. The stack keeps what was popped; only the slots below
    `depth` are live. -/

namespace Chip8

/-- Is the machine running, or waiting for a key? -/
inductive Mode where
  | running
  /-- The next key that goes down is put into this register. -/
  | awaitingKey (register : UInt8)
  deriving DecidableEq

/-- The whole state of the machine. -/
structure Machine where
  /-- V0 to VF. -/
  registers : Vector UInt8 16
  /-- The address register I. -/
  index : UInt16
  /-- The address of the next instruction. -/
  pc : UInt16
  /-- Return addresses, oldest first. -/
  stack : Vector UInt16 16
  /-- The number of outstanding calls, which is the next free slot of the stack. -/
  depth : Nat
  /-- Memory. -/
  ram : Ram
  /-- The delay timer. -/
  delay : UInt8
  /-- The sound timer. -/
  sound : UInt8
  /-- Which keys are held. -/
  keys : Vector Bool 16
  /-- What is on the screen. -/
  picture : Picture
  /-- Running or parked. -/
  mode : Mode
  deriving DecidableEq

/-- The number of registers. -/
def Machine.registerCount : Nat := 16

/-- The most calls that can be outstanding. -/
def Machine.stackSlots : Nat := 16

namespace Machine

/-- The machine at power-on: the font in memory, everything else off. -/
def fresh : Machine where
  registers := Vector.replicate 16 0
  index := 0
  pc := Ram.fresh.programAddr
  stack := Vector.replicate 16 0
  depth := 0
  ram := .fresh
  delay := 0
  sound := 0
  keys := Vector.replicate 16 false
  picture := .blank
  mode := .running

/-- The register that an operand names. -/
def slot (operand : UInt8) : Fin 16 :=
  ⟨operand.toNat % 16, Nat.mod_lt _ (by decide)⟩

/-- The register that flags go into. -/
def flagSlot : Fin 16 := 15

/-- The byte of a flag. -/
def flagByte (flag : Bool) : UInt8 := if flag then 1 else 0

/-- The content of the register that an operand names. -/
def register (m : Machine) (operand : UInt8) : UInt8 :=
  m.registers[slot operand]

/-- The machine with a register changed. -/
def setRegister (m : Machine) (operand value : UInt8) : Machine :=
  { m with registers := m.registers.set (slot operand) value }

/-- The machine with the flag register changed. -/
def setFlag (m : Machine) (flag : Bool) : Machine :=
  { m with registers := m.registers.set flagSlot (flagByte flag) }

/-- The machine with a result in a register and then a flag in the flag register. Where they are
    one register, the flag is what stays. -/
def setFlagged (m : Machine) (operand value : UInt8) (flag : Bool) : Machine :=
  (m.setRegister operand value).setFlag flag

/-- The machine with the latch of a key changed. -/
def setKey (m : Machine) (k : Fin 16) (held : Bool) : Machine :=
  { m with keys := m.keys.set k held }

/-- The machine with the next instruction skipped, if `condition` holds. -/
def skipIf (m : Machine) (condition : Bool) : Machine :=
  if condition then { m with pc := m.pc + 2 } else m

/-- The key of a number, or the fault that names it. -/
def key (number : UInt8) : Except Fault (Fin 16) :=
  if h : number.toNat < 16 then .ok ⟨number.toNat, h⟩ else .error (.invalidKey number)

/-- Is the buzzer to be heard? -/
def soundActive (m : Machine) : Bool := m.sound > 0

/-- The numbers of the keys that are held, in ascending order. -/
def heldKeys (m : Machine) : List (Fin 16) :=
  (List.finRange 16).filter fun k => m.keys[k]

/-- The live part of the stack: the return addresses of the outstanding calls, oldest first. -/
def calls (m : Machine) : List UInt16 :=
  m.stack.toList.take m.depth

/-! ### Registers after a change -/

@[simp] theorem register_setRegister_self (m : Machine) (x value : UInt8) :
    (m.setRegister x value).register x = value := by
  simp [setRegister, register]

theorem register_setRegister_ne (m : Machine) {x y : UInt8} (value : UInt8)
    (h : slot y ≠ slot x) : (m.setRegister x value).register y = m.register y := by
  simp only [setRegister, register, Fin.getElem_fin]
  exact Vector.getElem_set_ne _ _ fun eq => h (Fin.ext eq.symm)

@[simp] theorem flag_setFlag (m : Machine) (flag : Bool) :
    (m.setFlag flag).registers[flagSlot] = flagByte flag := by
  simp [setFlag]

/-- Two flags in a row: the later one stays. -/
@[simp] theorem setFlag_setFlag (m : Machine) (earlier later : Bool) :
    (m.setFlag earlier).setFlag later = m.setFlag later := by
  simp [setFlag]

end Machine

end Chip8
