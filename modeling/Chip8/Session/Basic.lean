import Chip8.Cadence
import Chip8.Device.Basic
import Chip8.Interpreter.Basic

/-! # Sessions

    A session is an interpreter with its devices, the three rates and what has been done so far.
    Told how much time has passed, it brings everything up to date: events first, then the ticks
    that are due, then the steps, then a frame, and last the buzzer. Each cadence catches up with
    its own target. A late frame is drawn once, however many were missed, and one that the display
    refused is still due. -/

namespace Chip8

/-- Should the session go on? -/
inductive Flow where
  | carryOn
  | quit
  deriving DecidableEq

/-- An interpreter with its devices. -/
structure Session (σ δ ι β : Type) where
  interpreter : Interpreter σ
  display : δ
  input : ι
  buzzer : β
  /-- How often things are to happen. -/
  rates : Rates
  /-- How often they have happened. -/
  counts : Counts := {}

namespace Session

variable {σ δ ι β α : Type}

/-- A call to the interpreter. -/
def onInterpreter (x : Action (Interpreter σ) α) : Action (Session σ δ ι β) α :=
  Action.onPart interpreter (fun s interpreter => { s with interpreter }) x

/-- Ask the input for events. -/
def poll [Input ι] (now : Nat) : Action (Session σ δ ι β) (List KeyEvent) := do
  let events ← Action.onPart input (fun s input => { s with input }) (Input.poll now)
  Action.record .polled
  return events

/-- Apply events in order. What comes after a wish to stop, or after an impossible key, is lost. -/
def apply : List KeyEvent → Action (Session σ δ ι β) Flow
  | [] => Action.done .carryOn
  | .quit :: _ => do
    let s ← Action.state
    Action.record (.note (.quit s.counts.cpu))
    return .quit
  | .down key :: rest => do
    onInterpreter (Interpreter.keyDown key)
    apply rest
  | .up key :: rest => do
    onInterpreter (Interpreter.keyUp key)
    apply rest

/-- Tick the timers until `target` ticks have happened. -/
def tickUpTo (target : Nat) : Action (Session σ δ ι β) Unit := fun s =>
  let turn := Interpreter.ticks (target - s.counts.timer) s.interpreter
  ⟨{ s with
      interpreter := turn.state
      counts := { s.counts with timer := max s.counts.timer target } },
    turn.result, turn.acts⟩

/-- Step the machine until `target` steps have succeeded or one fails. -/
def stepUpTo [ByteSource σ] (target : Nat) : Action (Session σ δ ι β) Unit := fun s =>
  let (succeeded, turn) := Interpreter.steps (target - s.counts.cpu) s.interpreter
  ⟨{ s with
      interpreter := turn.state
      counts := { s.counts with cpu := s.counts.cpu + succeeded } },
    turn.result, turn.acts⟩

/-- Draw a frame if one is due. -/
def drawUpTo [Display δ] (target : Nat) : Action (Session σ δ ι β) Unit := fun s =>
  if s.counts.frame < target then
    let picture := s.interpreter.machine.picture
    let turn := Display.draw picture s.display
    match turn.result with
    | .error fault => ⟨{ s with display := turn.state }, .error fault, turn.acts ++ [.drawRefused]⟩
    | .ok () =>
      ⟨{ s with display := turn.state, counts := { s.counts with frame := target } }, .ok (),
        turn.acts ++ [.drew picture]⟩
  else ⟨s, .ok (), []⟩

/-- Turn the buzzer on or off. A buzzer that refuses is worth a note and no more. -/
def buzz [Buzzer β] (on : Bool) : Action (Session σ δ ι β) Unit := fun s =>
  let turn := Buzzer.turn on s.buzzer
  let acts := match turn.result with
    | .ok () => [Act.buzzed on]
    | .error fault => [.buzzRefused on, .note (.buzzerRefused fault.message)]
  ⟨{ s with buzzer := turn.state }, .ok (), turn.acts ++ acts⟩

/-- Make the buzzer agree with the sound timer. -/
def matchBuzzer [Buzzer β] : Action (Session σ δ ι β) Unit := do
  let s ← Action.state
  let active := s.interpreter.machine.soundActive
  if active = Buzzer.sounding s.buzzer then return
  buzz active

/-- Everything that is due after `elapsed` nanoseconds, once events are applied. -/
def catchUp [ByteSource σ] [Display δ] [Buzzer β] (elapsed : Nat) :
    Action (Session σ δ ι β) Unit := do
  let s ← Action.state
  tickUpTo (Cadence.target elapsed s.rates.timer)
  stepUpTo (Cadence.target elapsed s.rates.cpu)
  drawUpTo (Cadence.target elapsed s.rates.frame)
  matchBuzzer

/-- Bring the session up to date. `now` is the time that the input is told. -/
def advance [ByteSource σ] [Display δ] [Input ι] [Buzzer β] (now elapsed : Nat) :
    Action (Session σ δ ι β) Flow := do
  let events ← poll now
  match ← apply events with
  | .quit => return .quit
  | .carryOn =>
    catchUp elapsed
    return .carryOn

end Session

end Chip8
