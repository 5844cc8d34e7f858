import Chip8.Fault
import Chip8.Opcode.Basic

/-! # From words to instructions

    The first nibble of a word names its family. Families 0, 8, E and F hold several instructions,
    told apart by the rest of the word; every other family holds one. The last nibble of a
    register comparison is not looked at, and neither is the `y` nibble of a shift. -/

namespace Chip8.Opcode

/-- Family 8: register arithmetic, told apart by the last nibble. -/
def ofArithmetic? (f : Fields) : Option Opcode :=
  match f.n.toNat with
  | 0x0 => some (.loadReg f.x f.y)
  | 0x1 => some (.or f.x f.y)
  | 0x2 => some (.and f.x f.y)
  | 0x3 => some (.xor f.x f.y)
  | 0x4 => some (.addReg f.x f.y)
  | 0x5 => some (.sub f.x f.y)
  | 0x6 => some (.shiftRight f.x)
  | 0x7 => some (.subReverse f.x f.y)
  | 0xe => some (.shiftLeft f.x)
  | _ => none

/-- Family E: skips on the keypad, told apart by the low byte. -/
def ofKeypad? (f : Fields) : Option Opcode :=
  match f.kk.toNat with
  | 0x9e => some (.skipKeyPressed f.x)
  | 0xa1 => some (.skipKeyNotPressed f.x)
  | _ => none

/-- Family F: timers, index and memory, told apart by the low byte. -/
def ofTransfer? (f : Fields) : Option Opcode :=
  match f.kk.toNat with
  | 0x07 => some (.loadDelay f.x)
  | 0x0a => some (.waitKey f.x)
  | 0x15 => some (.setDelay f.x)
  | 0x18 => some (.setSound f.x)
  | 0x1e => some (.addIndex f.x)
  | 0x29 => some (.loadDigit f.x)
  | 0x33 => some (.storeBcd f.x)
  | 0x55 => some (.storeRegisters f.x)
  | 0x65 => some (.loadRegisters f.x)
  | _ => none

/-- The instruction that a word stands for, if it stands for one. The family is a nibble, so what
    the named families leave over is F. -/
def ofWord? (word : UInt16) : Option Opcode :=
  let f := Fields.ofWord word
  match (word >>> 12).toNat with
  | 0x0 => if word = 0x00e0 then some .clearScreen else if word = 0x00ee then some .ret else none
  | 0x1 => some (.jump f.nnn)
  | 0x2 => some (.call f.nnn)
  | 0x3 => some (.skipEqImm f.x f.kk)
  | 0x4 => some (.skipNeImm f.x f.kk)
  | 0x5 => some (.skipEqReg f.x f.y)
  | 0x6 => some (.loadImm f.x f.kk)
  | 0x7 => some (.addImm f.x f.kk)
  | 0x8 => ofArithmetic? f
  | 0x9 => some (.skipNeReg f.x f.y)
  | 0xa => some (.loadIndex f.nnn)
  | 0xb => some (.jumpOffset f.nnn)
  | 0xc => some (.random f.x f.kk)
  | 0xd => some (.draw f.x f.y f.n)
  | 0xe => ofKeypad? f
  | _ => ofTransfer? f

/-- The instruction that a word stands for, or the fault that names the word. -/
def decode (word : UInt16) : Except Fault Opcode :=
  match ofWord? word with
  | some op => .ok op
  | none => .error (.unsupported word)

end Chip8.Opcode
