import Chip8.Text.Hex

/-! # Faults

    Everything that can stop a program. Most faults are the program's own doing: a word that is no
    instruction, a call too deep, an address outside memory. Two are not: a device that refuses, and
    a *defect*, an access outside its table or a number outside its type that the checks before it
    should have made impossible. A defect has a value of its own so that its absence can be
    stated. -/

namespace Chip8

/-- The two ranges of numbers that a program can point outside of. -/
inductive Space where
  | memory
  | displayRow
  deriving DecidableEq

/-- The words that a report uses for a space. -/
def Space.name : Space → String
  | .memory => "memory"
  | .displayRow => "display row"

/-- An access that does not fit its table, or a number that does not fit its type. -/
inductive Defect where
  /-- Slot `index` of a table with `size` slots. -/
  | noSlot (index size : Nat)
  /-- A range that ends before it starts. -/
  | reversed (start stop : Nat)
  /-- A range that ends after the table of `size` cells it is taken from. -/
  | pastEnd (stop size : Nat)
  /-- A copy of `given` cells onto `wanted` cells. -/
  | unequal (given wanted : Nat)
  /-- A cycle over no bytes at all. -/
  | emptyCycle
  /-- A sum that its type cannot hold. -/
  | tooLarge
  /-- A difference below zero. -/
  | belowZero
  deriving DecidableEq

/-- The text of a defect. -/
def Defect.message : Defect → String
  | .noSlot index size => s!"slot {index} of a table of {size}"
  | .reversed start stop => s!"slice index starts at {start} but ends at {stop}"
  | .pastEnd stop size => s!"a range up to {stop} in a table of {size}"
  | .unequal given wanted => s!"{given} cells copied onto {wanted}"
  | .emptyCycle => "FixedRandom needs at least one byte"
  | .tooLarge => "attempt to add with overflow"
  | .belowZero => "attempt to subtract with overflow"

/-- What stops a program, or the session around it. -/
inductive Fault where
  /-- The word is not in the instruction set. -/
  | unsupported (word : UInt16)
  /-- A call while sixteen calls are outstanding. -/
  | stackOverflow
  /-- A return while no call is outstanding. -/
  | stackUnderflow
  /-- The first place outside `space` that an access would have touched. -/
  | outOfBounds (space : Space) (place : Nat)
  /-- A key above 15. -/
  | invalidKey (key : UInt8)
  /-- A program of `size` bytes where at most `limit` fit. -/
  | programTooLarge (size limit : Nat)
  /-- A device, or the place a program is read from, refused with this text. -/
  | device (text : String)
  /-- An access outside its table, or a number outside its type. -/
  | defect (cause : Defect)
  deriving DecidableEq

/-- The report of a fault. Words and addresses have at least four digits, keys at least two. -/
def Fault.message : Fault → String
  | .unsupported word => "unsupported instruction 0x" ++ Text.hex 4 word.toNat
  | .stackOverflow => "stack overflow: more than 16 nested calls"
  | .stackUnderflow => "stack underflow: return with no outstanding call"
  | .outOfBounds space place => space.name ++ " out of bounds at 0x" ++ Text.hex 4 place
  | .invalidKey key => "invalid key 0x" ++ Text.hex 2 key.toNat
  | .programTooLarge size limit => s!"program is {size} bytes, at most {limit} fit in memory"
  | .device text => text
  | .defect cause => cause.message

/-- Is this fault a defect? -/
def Fault.isDefect : Fault → Bool
  | .defect _ => true
  | _ => false

end Chip8
