import Chip8.Device.StandIn
import Chip8.Keyboard.Basic
import Chip8.Proofs.Turn

/-! # Devices that meddle with nothing

    A device answers in turns, and the journal of a turn could hold any act at all, a tick or a step
    among them. But no device can reach the machine. Those that leave nothing in the journal but
    notes are called discreet here, and all devices there are happen to be. -/

namespace Chip8

/-- Is this act a note? -/
def Act.IsNote (act : Act) : Prop := ∃ n, act = .note n

open Chip8.Action

/-- A display that enters notes only. -/
class DiscreetDisplay (δ : Type) [Display δ] : Prop where
  draw (picture : Picture) : Enters Act.IsNote (Display.draw picture : Action δ Unit)

/-- An input that enters notes only. -/
class DiscreetInput (ι : Type) [Input ι] : Prop where
  poll (now : Nat) : Enters Act.IsNote (Input.poll now : Action ι (List KeyEvent))

/-- A buzzer that enters notes only. -/
class DiscreetBuzzer (β : Type) [Buzzer β] : Prop where
  turn (on : Bool) : Enters Act.IsNote (Buzzer.turn on : Action β Unit)

/-! ### Stand-ins -/

instance : DiscreetDisplay FrameKeeper where
  draw _ _ := nofun

instance : DiscreetInput Script where
  poll _ s := by
    obtain ⟨batches⟩ := s
    cases batches <;> exact nofun

instance : DiscreetBuzzer Mute where
  turn _ _ := nofun

namespace Unreliable

variable {δ : Type}

instance [Display δ] [DiscreetDisplay δ] : DiscreetDisplay (Unreliable δ) where
  draw picture d := by
    change ∀ act ∈ (if d.refuses then d.refuse else d.pass (Display.draw picture)).acts, act.IsNote
    split
    · exact nofun
    · exact DiscreetDisplay.draw picture d.device

instance [Input δ] [DiscreetInput δ] : DiscreetInput (Unreliable δ) where
  poll now d := by
    -- the events of a refused poll are lost, its notes are not
    have hacts : (Input.poll now d).acts = (Input.poll now d.device).acts := by
      simp only [Input.poll, pass]
      split <;> rfl
    rw [hacts]
    exact DiscreetInput.poll now d.device

instance [Buzzer δ] [DiscreetBuzzer δ] : DiscreetBuzzer (Unreliable δ) where
  turn on d := by
    change ∀ act ∈ (if d.refuses then d.refuse else d.pass (Buzzer.turn on)).acts, act.IsNote
    split
    · exact nofun
    · exact DiscreetBuzzer.turn on d.device

end Unreliable

/-! ### The keyboard -/

namespace Keyboard

theorem enters_press (now : Nat) (p : KeyPress) : Enters Act.IsNote (press now p) := by
  intro k
  unfold press
  -- a key that the layout does not know is worth a note, every other leaves none
  split
  · exact nofun
  · split
    · exact nofun
    · split
      · exact nofun
      · simp [Act.IsNote]
  · simp [Act.IsNote]

theorem enters_type (now : Nat) (reports : List TerminalEvent) :
    Enters Act.IsNote (type now reports) := by
  induction reports with
  | nil => exact enters_pure []
  | cons report rest ih =>
    cases report with
    | key p => exact (enters_press now p).bind fun _ => ih.bind fun _ => enters_pure _
    | position => exact ih
    | other => exact ih

theorem enters_read (now : Nat) (reports : List TerminalEvent) :
    Enters Act.IsNote (read now reports) := by
  have hrelease : Enters Act.IsNote (release now) := fun _ => nofun
  exact (enters_type now reports).bind fun _ => hrelease.bind fun _ => enters_pure _

end Keyboard

instance : DiscreetInput Typist where
  poll now t := Keyboard.enters_read now _ t.keyboard

end Chip8
