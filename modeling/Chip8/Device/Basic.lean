import Chip8.Turn

/-! # Devices

    What a session needs from the world: something that shows pictures, something that tells about
    keys, and something that can be heard. A device has a state and answers in turns; a turn may
    fail. -/

namespace Chip8

/-- What the input has to say. -/
inductive KeyEvent where
  | down (key : UInt8)
  | up (key : UInt8)
  /-- The user wants to stop. -/
  | quit
  deriving DecidableEq

/-- Shows pictures. -/
class Display (δ : Type) where
  /-- Show one frame. -/
  draw : Picture → Action δ Unit

/-- Tells about keys. -/
class Input (ι : Type) where
  /-- Everything that happened since the last call, oldest first. The number is the time. -/
  poll : Nat → Action ι (List KeyEvent)

/-- Can be heard. -/
class Buzzer (β : Type) where
  /-- Is it on? -/
  sounding : β → Bool
  /-- Turn it on or off. -/
  turn : Bool → Action β Unit

end Chip8
