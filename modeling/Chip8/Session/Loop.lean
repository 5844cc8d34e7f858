import Chip8.Session.Basic

/-! # The main loop

    A session runs by being advanced at one reading of the clock after another, until the user
    quits or something fails. However it ends, the buzzer is turned off. -/

namespace Chip8.Session

variable {σ δ ι β : Type}

/-- The pause between two readings, in nanoseconds. -/
def pause : Nat := 2000000

/-- The first `count` readings of a clock that shows nothing but pauses. -/
def readings (count : Nat) : List Nat :=
  (List.range count).map (· * pause)

/-- Turn the buzzer off if it is on. -/
def silence [Buzzer β] : Action (Session σ δ ι β) Unit := do
  let s ← Action.state
  if Buzzer.sounding s.buzzer then buzz false

/-- The end that a turn puts to the loop, if it puts one. -/
def ending [Buzzer β] (turn : Turn (Session σ δ ι β) Flow) :
    Option (Turn (Session σ δ ι β) Unit) :=
  match turn.result with
  | .ok .carryOn => none
  | .ok .quit =>
    let last := silence turn.state
    some ⟨last.state, .ok (), turn.acts ++ last.acts⟩
  | .error fault =>
    let last := silence turn.state
    some ⟨last.state, .error fault, turn.acts ++ last.acts⟩

/-- The whole run over the given readings of the clock, if it ends within them. A reading is the
    time since the start, and the input is told the same time. -/
def run [ByteSource σ] [Display δ] [Input ι] [Buzzer β] :
    List Nat → Session σ δ ι β → Option (Turn (Session σ δ ι β) Unit)
  | [], _ => none
  | reading :: later, s =>
    let turn := advance reading reading s
    match ending turn with
    | some last => some last
    | none => (run later turn.state).map fun rest => { rest with acts := turn.acts ++ rest.acts }

end Chip8.Session
