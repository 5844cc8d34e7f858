import Chip8.Text.Hex
import Chip8.Text.Quoted
import Chip8.Opcode.Show
import Chip8.Picture.Basic

/-! # The journal

    Beside its result, whatever the machine and its devices do leaves a journal: the acts that were
    performed, oldest first, and between them notes for whoever watches. A note has a level and a
    text. -/

namespace Chip8

/-! ### Notes -/

/-- How much a note matters. -/
inductive Level where
  | trace
  | debug
  | warn
  deriving DecidableEq

/-- The levels in rising order. -/
def Level.rank : Level → Nat
  | .trace => 0
  | .debug => 1
  | .warn => 2

/-- The name of a level in a log line. -/
def Level.name : Level → String
  | .trace => "TRACE"
  | .debug => "DEBUG"
  | .warn => "WARN"

/-- Something worth telling. -/
inductive Note where
  /-- A program of `size` bytes is in memory at `addr`. -/
  | loaded (size : Nat) (addr : UInt16)
  /-- The word at `pc` was decoded and is about to be executed. -/
  | fetched (pc word : UInt16) (op : Opcode)
  /-- The machine is parked until a key goes down. -/
  | waiting (register : UInt8)
  /-- A key ended the wait. -/
  | resumed (key register : UInt8)
  /-- The session was ended after so many instructions. -/
  | quit (steps : Nat)
  /-- The buzzer refused with this text. -/
  | buzzerRefused (text : String)
  /-- A character that the layout has no key for. -/
  | unmappedChar (c : Char)
  /-- A key that is no character, by its name. -/
  | unmappedKey (name : String)
  deriving DecidableEq

/-- The level of a note. -/
def Note.level : Note → Level
  | .fetched .. => .trace
  | .loaded .. | .waiting .. | .resumed .. | .quit .. => .debug
  | .buzzerRefused .. | .unmappedChar .. | .unmappedKey .. => .warn

/-- The text of a note. -/
def Note.text : Note → String
  | .loaded size addr => s!"loaded {size} byte program at 0x" ++ Text.hex 3 addr.toNat
  | .fetched pc word op =>
    "0x" ++ Text.hex 3 pc.toNat ++ ": " ++ Text.hex 4 word.toNat ++ " " ++ op.text
  | .waiting register => "waiting for a key into V" ++ Text.hexCapital 1 register.toNat
  | .resumed key register =>
    "key " ++ Text.hex 1 key.toNat ++ " resumes execution into V" ++
      Text.hexCapital 1 register.toNat
  | .quit steps => s!"quit after {steps} instructions"
  | .buzzerRefused text => "sound: " ++ text
  | .unmappedChar c => "can't map " ++ Text.quotedChar c ++ " to a CHIP-8 key"
  | .unmappedKey name => "unmapped key event " ++ name

/-- A note as a log line. -/
def Note.line (n : Note) : String :=
  n.level.name ++ " " ++ n.text

/-! ### Acts -/

/-- Something that was done. -/
inductive Act where
  /-- A note was left. -/
  | note (n : Note)
  /-- The input was asked for events. -/
  | polled
  /-- A key went down. -/
  | pressed (key : UInt8)
  /-- A key went up. -/
  | released (key : UInt8)
  /-- The timers counted down. -/
  | ticked
  /-- A step of the machine succeeded. -/
  | stepped
  /-- A frame was drawn. -/
  | drew (picture : Picture)
  /-- The display refused a frame. -/
  | drawRefused
  /-- The buzzer was turned on or off. -/
  | buzzed (on : Bool)
  /-- The buzzer refused to be turned on or off. -/
  | buzzRefused (on : Bool)
  deriving DecidableEq

/-- The note that an act is, if it is one. -/
def Act.note? : Act → Option Note
  | .note n => some n
  | _ => none

/-- The state that a buzzer was asked for, whether it obliged or not. -/
def Act.buzz? : Act → Option Bool
  | .buzzed on | .buzzRefused on => some on
  | _ => none

/-- The notes of a journal that matter at least as much as `level`, as log lines. -/
def logLines (level : Level) (acts : List Act) : List String :=
  ((acts.filterMap Act.note?).filter fun n => level.rank ≤ n.level.rank).map Note.line

end Chip8
