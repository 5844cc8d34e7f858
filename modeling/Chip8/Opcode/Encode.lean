import Chip8.Opcode.Basic

/-! # From instructions to words

    The assembler's half of the instruction set. A nibble that the machine does not look at is
    written as 0. Operands are taken to fit their fields (`Opcode.WellFormed`). -/

namespace Chip8.Opcode

/-- The word of an instruction with an address. -/
def wordN (family nnn : UInt16) : UInt16 :=
  family ||| nnn

/-- The word of an instruction with a register and a byte. -/
def wordXK (family : UInt16) (x kk : UInt8) : UInt16 :=
  family ||| (x.toUInt16 <<< 8) ||| kk.toUInt16

/-- The word of an instruction with two registers and a last nibble. -/
def wordXYN (family : UInt16) (x y n : UInt8) : UInt16 :=
  family ||| (x.toUInt16 <<< 8) ||| (y.toUInt16 <<< 4) ||| n.toUInt16

/-- The word that stands for an instruction. -/
def encode : Opcode → UInt16
  | .clearScreen => 0x00e0
  | .ret => 0x00ee
  | .jump nnn => wordN 0x1000 nnn
  | .call nnn => wordN 0x2000 nnn
  | .skipEqImm x kk => wordXK 0x3000 x kk
  | .skipNeImm x kk => wordXK 0x4000 x kk
  | .skipEqReg x y => wordXYN 0x5000 x y 0
  | .loadImm x kk => wordXK 0x6000 x kk
  | .addImm x kk => wordXK 0x7000 x kk
  | .loadReg x y => wordXYN 0x8000 x y 0x0
  | .or x y => wordXYN 0x8000 x y 0x1
  | .and x y => wordXYN 0x8000 x y 0x2
  | .xor x y => wordXYN 0x8000 x y 0x3
  | .addReg x y => wordXYN 0x8000 x y 0x4
  | .sub x y => wordXYN 0x8000 x y 0x5
  | .shiftRight x => wordXYN 0x8000 x 0 0x6
  | .subReverse x y => wordXYN 0x8000 x y 0x7
  | .shiftLeft x => wordXYN 0x8000 x 0 0xe
  | .skipNeReg x y => wordXYN 0x9000 x y 0
  | .loadIndex nnn => wordN 0xa000 nnn
  | .jumpOffset nnn => wordN 0xb000 nnn
  | .random x kk => wordXK 0xc000 x kk
  | .draw x y n => wordXYN 0xd000 x y n
  | .skipKeyPressed x => wordXK 0xe000 x 0x9e
  | .skipKeyNotPressed x => wordXK 0xe000 x 0xa1
  | .loadDelay x => wordXK 0xf000 x 0x07
  | .waitKey x => wordXK 0xf000 x 0x0a
  | .setDelay x => wordXK 0xf000 x 0x15
  | .setSound x => wordXK 0xf000 x 0x18
  | .addIndex x => wordXK 0xf000 x 0x1e
  | .loadDigit x => wordXK 0xf000 x 0x29
  | .storeBcd x => wordXK 0xf000 x 0x33
  | .storeRegisters x => wordXK 0xf000 x 0x55
  | .loadRegisters x => wordXK 0xf000 x 0x65

/-- A word as it lies in memory, high byte first. -/
def bytesOfWord (word : UInt16) : List UInt8 :=
  [(word >>> 8).toUInt8, word.toUInt8]

/-- The bytes of a program. -/
def assemble (ops : List Opcode) : List UInt8 :=
  ops.flatMap fun op => bytesOfWord op.encode

end Chip8.Opcode
