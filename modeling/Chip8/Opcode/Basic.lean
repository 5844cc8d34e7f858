/-! # Instructions

    The 34 instructions of the machine. `x` and `y` name registers, `n` counts sprite rows, `kk` is
    an immediate byte and `nnn` an address. The types of the operands are wider than the four or
    twelve bits that a word has room for; an instruction whose operands fit is *well formed*. -/

namespace Chip8

/-- One instruction with its operands. -/
inductive Opcode where
  /-- All pixels off. -/
  | clearScreen
  /-- Back to the address saved by the last outstanding call. -/
  | ret
  | jump (nnn : UInt16)
  | call (nnn : UInt16)
  | skipEqImm (x kk : UInt8)
  | skipNeImm (x kk : UInt8)
  | skipEqReg (x y : UInt8)
  | loadImm (x kk : UInt8)
  | addImm (x kk : UInt8)
  | loadReg (x y : UInt8)
  | or (x y : UInt8)
  | and (x y : UInt8)
  | xor (x y : UInt8)
  /-- The sum, with the carry as the flag. -/
  | addReg (x y : UInt8)
  /-- The first less the second, with "no borrow, and not equal" as the flag. -/
  | sub (x y : UInt8)
  /-- Half, with the bit shifted out as the flag. -/
  | shiftRight (x : UInt8)
  /-- The second less the first, with the flag as for `sub`. -/
  | subReverse (x y : UInt8)
  /-- Double, with the bit shifted out as the flag. -/
  | shiftLeft (x : UInt8)
  | skipNeReg (x y : UInt8)
  | loadIndex (nnn : UInt16)
  /-- A jump to `nnn` plus the first register. -/
  | jumpOffset (nnn : UInt16)
  /-- A random byte, masked with `kk`. -/
  | random (x kk : UInt8)
  /-- `n` sprite rows from the index on, drawn at the pixel that registers `x` and `y` name. -/
  | draw (x y n : UInt8)
  | skipKeyPressed (x : UInt8)
  | skipKeyNotPressed (x : UInt8)
  | loadDelay (x : UInt8)
  /-- Nothing further happens until a key goes down; its number goes into register `x`. -/
  | waitKey (x : UInt8)
  | setDelay (x : UInt8)
  | setSound (x : UInt8)
  | addIndex (x : UInt8)
  /-- The index is set to the sprite of the digit in register `x`. -/
  | loadDigit (x : UInt8)
  /-- Hundreds, tens and ones of register `x`, written from the index on. -/
  | storeBcd (x : UInt8)
  /-- The registers up to `x`, written from the index on. -/
  | storeRegisters (x : UInt8)
  /-- The registers up to `x`, read from the index on. -/
  | loadRegisters (x : UInt8)
  deriving DecidableEq

/-- The five fields that a word can be cut into. Which of them count is up to the instruction. -/
structure Fields where
  /-- Second nibble. -/
  x : UInt8
  /-- Third nibble. -/
  y : UInt8
  /-- Fourth nibble. -/
  n : UInt8
  /-- Low byte. -/
  kk : UInt8
  /-- Low twelve bits. -/
  nnn : UInt16
  deriving DecidableEq

/-- The fields of a word. -/
def Fields.ofWord (word : UInt16) : Fields where
  x := ((word >>> 8) &&& 0x0f).toUInt8
  y := ((word >>> 4) &&& 0x0f).toUInt8
  n := (word &&& 0x0f).toUInt8
  kk := (word &&& 0xff).toUInt8
  nnn := word &&& 0x0fff

/-- Do the operands fit a word: nibbles below 16, addresses below 4096? -/
def Opcode.WellFormed : Opcode → Prop
  | .clearScreen | .ret => True
  | .jump nnn | .call nnn | .loadIndex nnn | .jumpOffset nnn => nnn < 0x1000
  | .skipEqImm x _ | .skipNeImm x _ | .loadImm x _ | .addImm x _ | .random x _ => x < 16
  | .skipEqReg x y | .loadReg x y | .or x y | .and x y | .xor x y | .addReg x y | .sub x y
  | .subReverse x y | .skipNeReg x y => x < 16 ∧ y < 16
  | .draw x y n => x < 16 ∧ y < 16 ∧ n < 16
  | .shiftRight x | .shiftLeft x | .skipKeyPressed x | .skipKeyNotPressed x | .loadDelay x
  | .waitKey x | .setDelay x | .setSound x | .addIndex x | .loadDigit x | .storeBcd x
  | .storeRegisters x | .loadRegisters x => x < 16

end Chip8
