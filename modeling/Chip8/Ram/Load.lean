import Chip8.Ram.Basic

/-! # Loading a program

    A program arrives whole or not at all. The room for it is what is left of memory from the
    program address on, in machine arithmetic; the write that follows checks once more. From a
    program address past the end of memory the room is a difference below zero. -/

namespace Chip8

/-- What comes out of the place that a program is read from. -/
inductive Delivery where
  /-- All bytes. -/
  | whole (bytes : List UInt8)
  /-- Some bytes, then a refusal with this text. -/
  | broken (bytes : List UInt8) (text : String)
  deriving DecidableEq

namespace Ram

/-- The most bytes that fit from the program address on. -/
def room (ram : Ram) (overflow : Overflow := .trapped) : Except Fault UInt64 :=
  overflow.sub (UInt64.ofNat size) ram.programAddr.toUInt64

/-- Memory with a program in it, and the number of its bytes. -/
def load (ram : Ram) (program : Delivery) (overflow : Overflow := .trapped) :
    Except Fault (Nat × Ram) :=
  match program with
  | .broken _ text => .error (.device text)
  | .whole bytes => do
    let room ← ram.room overflow
    if bytes.length > room.toNat then throw (.programTooLarge bytes.length room.toNat)
    let loaded ← ram.write ram.programAddr bytes overflow
    return (bytes.length, loaded)

end Ram

end Chip8
