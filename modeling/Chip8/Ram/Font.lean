import Chip8.Ram.Basic

/-! # The digit font

    Sixteen sprites of five rows each, one for every hexadecimal digit, lie at the bottom of memory.
    Fresh memory holds them and zeros. -/

namespace Chip8.Ram

/-- The rows of the sixteen digits, in order. -/
def font : List UInt8 :=
  [0xF0, 0x90, 0x90, 0x90, 0xF0, -- 0
   0x20, 0x60, 0x20, 0x20, 0x70, -- 1
   0xF0, 0x10, 0xF0, 0x80, 0xF0, -- 2
   0xF0, 0x10, 0xF0, 0x10, 0xF0, -- 3
   0x90, 0x90, 0xF0, 0x10, 0x10, -- 4
   0xF0, 0x80, 0xF0, 0x10, 0xF0, -- 5
   0xF0, 0x80, 0xF0, 0x90, 0xF0, -- 6
   0xF0, 0x10, 0x20, 0x40, 0x40, -- 7
   0xF0, 0x90, 0xF0, 0x90, 0xF0, -- 8
   0xF0, 0x90, 0xF0, 0x10, 0xF0, -- 9
   0xF0, 0x90, 0xF0, 0x90, 0x90, -- A
   0xE0, 0x90, 0xE0, 0x90, 0xE0, -- B
   0xF0, 0x80, 0x80, 0x80, 0xF0, -- C
   0xE0, 0x90, 0x90, 0x90, 0xE0, -- D
   0xF0, 0x80, 0xF0, 0x80, 0xF0, -- E
   0xF0, 0x80, 0xF0, 0x80, 0x80] -- F

/-- The number of rows of a digit. -/
def digitRows : UInt16 := 5

/-- Where programs are loaded. -/
def programStart : UInt16 := 0x200

/-- Fresh memory: the font from address 0 on, zeros after it. -/
def fresh : Ram where
  cells := put (Vector.replicate 4096 0) 0 font
  programAddr := programStart

/-- The address of a digit's sprite. A byte above 15 names an address past the font. -/
def digitAddr (digit : UInt8) : UInt16 :=
  digitRows * digit.toUInt16

end Chip8.Ram
