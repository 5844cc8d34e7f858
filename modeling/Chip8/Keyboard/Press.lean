/-! # Key presses

    What a terminal reports: keys with the control and alt keys held or not, and other events that
    are no keys. -/

namespace Chip8

/-- A key of a terminal. -/
inductive KeyCode where
  | char (c : Char)
  | escape
  | enter
  | tab
  | backTab
  | backspace
  | insert
  | delete
  | up
  | down
  | left
  | right
  | home
  | last
  | pageUp
  | pageDown
  /-- A function key. -/
  | function (number : Nat)
  /-- The null character as a key. It is read as a space with the control key. -/
  | null
  deriving DecidableEq

/-- The name of a key. -/
def KeyCode.name : KeyCode → String
  | .char c => String.singleton c
  | .escape => "Esc"
  | .enter => "Enter"
  | .tab => "Tab"
  | .backTab => "BackTab"
  | .backspace => "Backspace"
  | .insert => "Insert"
  | .delete => "Delete"
  | .up => "Up"
  | .down => "Down"
  | .left => "Left"
  | .right => "Right"
  | .home => "Home"
  | .last => "End"
  | .pageUp => "PageUp"
  | .pageDown => "PageDown"
  | .function number => s!"F({number})"
  | .null => "Null"

/-- A press of a key. -/
structure KeyPress where
  code : KeyCode
  /-- With the control key. -/
  control : Bool := false
  /-- With the alt key. -/
  alt : Bool := false
  deriving DecidableEq

/-- What a terminal reports. -/
inductive TerminalEvent where
  | key (press : KeyPress)
  /-- The place of the cursor. Nothing here asks for it. -/
  | position
  /-- A movement of the mouse, a change of size, and the like. -/
  | other
  deriving DecidableEq

/-- The event with the alt key, if it is a key. -/
def TerminalEvent.withAlt : TerminalEvent → TerminalEvent
  | .key press => .key { press with alt := true }
  | event => event

end Chip8
