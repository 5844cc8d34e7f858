import Chip8.Opcode.Decode
import Chip8.Picture.Sprite
import Chip8.Machine.Basic
import Chip8.Machine.Decimal

/-! # What an instruction does

    `execute` gives the machine after one instruction, or the fault that keeps it from happening; a
    fault comes without a machine, so a failing instruction has no effect. The program counter is
    taken to point past the instruction already. -/

namespace Chip8.Machine

/-! ### Calls -/

/-- A call: the program counter goes on the stack. -/
def enter (m : Machine) (target : UInt16) : Except Fault Machine :=
  if h : m.depth < 16 then
    .ok { m with stack := m.stack.set m.depth m.pc, depth := m.depth + 1, pc := target }
  else .error .stackOverflow

/-- A return: the last address on the stack becomes the program counter. -/
def leave (m : Machine) : Except Fault Machine :=
  match m.depth with
  | 0 => .error .stackUnderflow
  | top + 1 =>
    match m.stack[top]? with
    | some target => .ok { m with depth := top, pc := target }
    | none => .error (.defect (.noSlot top stackSlots))

/-! ### Memory and screen -/

/-- The first `count` registers. -/
def lowRegisters (m : Machine) (count : Nat) : Except Fault (List UInt8) :=
  if registerCount < count then .error (.defect (.pastEnd count registerCount))
  else .ok (m.registers.toList.take count)

/-- The machine with its first `count` registers replaced. -/
def setLowRegisters (m : Machine) (count : Nat) (values : List UInt8) : Except Fault Machine :=
  if registerCount < count then .error (.defect (.pastEnd count registerCount))
  else if values.length ≠ count then .error (.defect (.unequal values.length count))
  else .ok { m with registers := Vector.ofFn fun r => values[r.val]?.getD (m.registers.get r) }

/-- The machine with `data` written from the index on. -/
def store (m : Machine) (data : List UInt8) : Except Fault Machine := do
  let ram ← m.ram.write m.index data
  return { m with ram }

/-- The machine with its first `count` registers read from the index on. -/
def restore (m : Machine) (count : Nat) : Except Fault Machine := do
  let values ← m.ram.slice m.index (UInt64.ofNat count)
  m.setLowRegisters count values

/-- A sprite of `n` rows from the index on, stamped at column `x` and row `y`. The flag tells
    whether a lit pixel went dark. Memory is looked at first, then the rows of the screen. -/
def drawSprite (m : Machine) (x y n : UInt8) : Except Fault Machine := do
  let sprite ← m.ram.slice m.index n.toUInt64
  if sprite.isEmpty then return m.setFlag false
  let bottom := y.toNat + sprite.length
  if bottom > Picture.height then throw (.outOfBounds .displayRow (bottom - 1))
  let (picture, erased) ← m.picture.stamp sprite x y.toNat
  return { m with picture }.setFlag erased

/-! ### All instructions -/

/-- The machine after an instruction. `byte` is the byte that a random number is made of. -/
def execute (m : Machine) (byte : UInt8) : Opcode → Except Fault Machine
  | .clearScreen => .ok { m with picture := .blank }
  | .ret => m.leave
  | .jump nnn => .ok { m with pc := nnn }
  | .call nnn => m.enter nnn
  | .skipEqImm x kk => .ok (m.skipIf (m.register x == kk))
  | .skipNeImm x kk => .ok (m.skipIf (m.register x != kk))
  | .skipEqReg x y => .ok (m.skipIf (m.register x == m.register y))
  | .skipNeReg x y => .ok (m.skipIf (m.register x != m.register y))
  | .loadImm x kk => .ok (m.setRegister x kk)
  | .addImm x kk => .ok (m.setRegister x (m.register x + kk))
  | .loadReg x y => .ok (m.setRegister x (m.register y))
  | .or x y => .ok (m.setRegister x (m.register x ||| m.register y))
  | .and x y => .ok (m.setRegister x (m.register x &&& m.register y))
  | .xor x y => .ok (m.setRegister x (m.register x ^^^ m.register y))
  | .addReg x y =>
    let (a, b) := (m.register x, m.register y)
    .ok (m.setFlagged x (a + b) (a.toNat + b.toNat ≥ 256))
  | .sub x y =>
    let (a, b) := (m.register x, m.register y)
    .ok (m.setFlagged x (a - b) (a > b))
  | .subReverse x y =>
    let (a, b) := (m.register x, m.register y)
    .ok (m.setFlagged x (b - a) (b > a))
  | .shiftRight x =>
    let a := m.register x
    .ok (m.setFlagged x (a >>> 1) (a &&& 0x01 != 0))
  | .shiftLeft x =>
    let a := m.register x
    .ok (m.setFlagged x (a <<< 1) (a &&& 0x80 != 0))
  | .loadIndex nnn => .ok { m with index := nnn }
  | .jumpOffset nnn => .ok { m with pc := nnn + (m.register 0).toUInt16 }
  | .random x kk => .ok (m.setRegister x (byte &&& kk))
  | .draw x y n => m.drawSprite (m.register x) (m.register y) n
  | .skipKeyPressed x => do
    let k ← key (m.register x)
    return m.skipIf (m.keys.get k)
  | .skipKeyNotPressed x => do
    let k ← key (m.register x)
    return m.skipIf !m.keys.get k
  | .loadDelay x => .ok (m.setRegister x m.delay)
  | .waitKey x => .ok { m with mode := .awaitingKey x }
  | .setDelay x => .ok { m with delay := m.register x }
  | .setSound x => .ok { m with sound := m.register x }
  | .addIndex x => .ok { m with index := m.index + (m.register x).toUInt16 }
  | .loadDigit x => .ok { m with index := Ram.digitAddr (m.register x) }
  | .storeBcd x => m.store (Digits.ofByte (m.register x)).toList
  | .storeRegisters x => do m.store (← m.lowRegisters ((slot x).val + 1))
  | .loadRegisters x => m.restore ((slot x).val + 1)

/-! ### What comes from outside -/

/-- The word at the program counter and the instruction that it stands for. -/
def fetch (m : Machine) : Except Fault (UInt16 × Opcode) := do
  let word ← m.ram.word m.pc
  let op ← Opcode.decode word
  return (word, op)

/-- Both timers count down by one and stop at zero. -/
def tick (m : Machine) : Machine :=
  { m with
    delay := if m.delay = 0 then 0 else m.delay - 1
    sound := if m.sound = 0 then 0 else m.sound - 1 }

/-- A key goes down. A parked machine takes it into the waiting register and runs on. -/
def keyDown (m : Machine) (number : UInt8) : Except Fault Machine := do
  let k ← key number
  let latched := m.setKey k true
  match m.mode with
  | .running => return latched
  | .awaitingKey r => return { latched.setRegister r number with mode := .running }

/-- A key goes up. -/
def keyUp (m : Machine) (number : UInt8) : Except Fault Machine := do
  let k ← key number
  return m.setKey k false

end Chip8.Machine
