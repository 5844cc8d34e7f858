import Chip8.Device.Basic

/-! # Devices without a world

    A display that only remembers, an input that reads from a script, a buzzer that is silent, and a
    wrapper that makes any of them refuse now and then. -/

namespace Chip8

/-- A display that counts its frames and keeps the last one. -/
structure FrameKeeper where
  /-- How many frames were drawn. -/
  frames : Nat := 0
  /-- The frame drawn last. -/
  last : Picture := .blank
  deriving DecidableEq, Inhabited

instance : Display FrameKeeper where
  draw picture := Action.update fun d => { frames := d.frames + 1, last := picture }

/-- An input that hands out one batch of events per call, and nothing once the script is over. -/
structure Script where
  /-- The batches to come. -/
  batches : List (List KeyEvent) := []
  deriving DecidableEq, Inhabited

instance : Input Script where
  poll _ := fun s =>
    match s.batches with
    | [] => ⟨s, .ok [], []⟩
    | batch :: rest => ⟨⟨rest⟩, .ok batch, []⟩

/-- A buzzer that makes no sound and knows whether it ought to. -/
structure Mute where
  /-- Is it on? -/
  on : Bool := false
  deriving DecidableEq, Inhabited

instance : Buzzer Mute where
  sounding := Mute.on
  turn on := Action.update fun _ => ⟨on⟩

/-- A device whose calls, counted from 0, fail where the list says so. -/
structure Unreliable (δ : Type) where
  /-- The device itself. -/
  device : δ
  /-- The text of a refusal. -/
  refusal : String
  /-- The calls that fail. -/
  failing : List Nat := []
  /-- The calls so far. -/
  calls : Nat := 0
  deriving DecidableEq

namespace Unreliable

variable {δ : Type}

/-- The device after one more call. -/
def counted (d : Unreliable δ) : Unreliable δ := { d with calls := d.calls + 1 }

/-- Does the next call fail? -/
def refuses (d : Unreliable δ) : Bool := d.failing.contains d.calls

/-- The turn of a refused call. -/
def refuse {α : Type} (d : Unreliable δ) : Turn (Unreliable δ) α :=
  ⟨d.counted, .error (.device d.refusal), []⟩

/-- The turn of a call that goes through. -/
def pass {α : Type} (d : Unreliable δ) (x : Action δ α) : Turn (Unreliable δ) α :=
  let turn := x d.device
  ⟨{ d.counted with device := turn.state }, turn.result, turn.acts⟩

/-- A refused frame is not drawn. -/
instance [Display δ] : Display (Unreliable δ) where
  draw picture := fun d => if d.refuses then d.refuse else d.pass (Display.draw picture)

/-- The events of a refused poll are lost. -/
instance [Input δ] : Input (Unreliable δ) where
  poll now := fun d =>
    let passed := d.pass (Input.poll now)
    if d.refuses then { passed with result := .error (.device d.refusal) } else passed

/-- A refused change leaves the buzzer as it was. -/
instance [Buzzer δ] : Buzzer (Unreliable δ) where
  sounding d := Buzzer.sounding d.device
  turn on := fun d => if d.refuses then d.refuse else d.pass (Buzzer.turn on)

end Unreliable

end Chip8
