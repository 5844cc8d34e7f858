import Chip8.Device.Basic
import Chip8.Keyboard.Hold
import Chip8.Keyboard.Inbox
import Chip8.Keyboard.Layout

/-! # The keyboard

    A keyboard turns what a terminal reports into key events. Characters of the layout, in either
    case, go down when they are typed and up when their hold is over; a call first reports what was
    typed and then the releases that are due. Escape, and `c` with the control key, are the wish to
    stop. Everything else is worth a note. -/

namespace Chip8

/-- A layout with the keys that are held. -/
structure Keyboard where
  layout : Layout
  holds : Holds
  deriving DecidableEq

namespace Keyboard

/-- A keyboard with no key held. `hold` is how long a press lasts. -/
def idle (layout : Layout) (hold : Nat) : Keyboard := ⟨layout, .none hold⟩

/-- One press. -/
def press (now : Nat) (p : KeyPress) : Action Keyboard (List KeyEvent) := fun k =>
  match p.code with
  | .escape => ⟨k, .ok [.quit], []⟩
  | .char c =>
    if c = 'c' ∧ p.control then ⟨k, .ok [.quit], []⟩
    else match k.layout.key? c.toLower with
      | some key => ⟨{ k with holds := k.holds.press key now }, .ok [.down key], []⟩
      | none => ⟨k, .ok [], [.note (.unmappedChar c)]⟩
  | code => ⟨k, .ok [], [.note (.unmappedKey code.name)]⟩

/-- Everything that the terminal reported, oldest first. -/
def type (now : Nat) : List TerminalEvent → Action Keyboard (List KeyEvent)
  | [] => Action.done []
  | .key p :: rest => do
    let events ← press now p
    let later ← type now rest
    return events ++ later
  | _ :: rest => type now rest

/-- The releases that are due. -/
def release (now : Nat) : Action Keyboard (List KeyEvent) := fun k =>
  let (keys, holds) := k.holds.release now
  ⟨{ k with holds }, .ok (keys.map .up), []⟩

/-- What was typed, then the releases that are due. -/
def read (now : Nat) (reports : List TerminalEvent) : Action Keyboard (List KeyEvent) := do
  let typed ← type now reports
  let released ← release now
  return typed ++ released

end Keyboard

/-- A keyboard with somebody at it: what the terminal sends before each call, and nothing after
    that. -/
structure Typist where
  keyboard : Keyboard
  inbox : Inbox := {}
  /-- The bytes to come, one list per call. -/
  typed : List (List UInt8)
  deriving DecidableEq

instance : Input Typist where
  poll now := fun t =>
    let (reports, inbox) := (t.inbox.receive (t.typed.headD [])).collect
    let turn := Keyboard.read now reports t.keyboard
    ⟨⟨turn.state, inbox, t.typed.tail⟩, turn.result, turn.acts⟩

end Chip8
