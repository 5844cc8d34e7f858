import Chip8.Machine.Basic

/-! # Holding keys

    A terminal tells when a key is pressed and never when it is let go. So a key counts as held
    until a fixed time has passed since it was last pressed. Pressing it again, as a keyboard does
    by itself while the key is down, puts the release off. -/

namespace Chip8

/-- The keys that are held, with the times of their release. -/
structure Holds where
  /-- How long a press lasts. -/
  hold : Nat
  /-- When each key is to be released. -/
  due : Vector (Option Nat) 16
  deriving DecidableEq

namespace Holds

/-- No key is held. -/
def none (hold : Nat) : Holds := ⟨hold, Vector.replicate 16 Option.none⟩

/-- A key is pressed. Its number counts modulo 16. The time that it is held until is taken to be
    one that a clock can show: no sum of a time and a hold is too large. -/
def press (h : Holds) (key : UInt8) (now : Nat) : Holds :=
  { h with due := h.due.setIfInBounds (Machine.slot key) (some (now + h.hold)) }

@[simp] theorem due_press_self (h : Holds) (key : UInt8) (now : Nat) :
    (h.press key now).due.get (Machine.slot key) = some (now + h.hold) :=
  Vector.getElem_setIfInBounds_self (Machine.slot key).isLt

theorem due_press_ne (h : Holds) {key : UInt8} {k : Fin 16} (now : Nat)
    (ne : k ≠ Machine.slot key) : (h.press key now).due.get k = h.due.get k :=
  Vector.getElem_setIfInBounds_ne k.isLt fun eq => ne (Fin.ext eq.symm)

/-- Has this time of release come? -/
def isDue (now : Nat) : Option Nat → Bool
  | some time => time ≤ now
  | Option.none => false

/-- The keys whose time has come, in ascending order. -/
def expired (h : Holds) (now : Nat) : List (Fin 16) :=
  (List.finRange 16).filter fun k => isDue now (h.due.get k)

/-- The keys whose time has not come stay held. -/
def dropExpired (h : Holds) (now : Nat) : Holds :=
  { h with due := h.due.map fun time => if isDue now time then Option.none else time }

/-- Release what is due: its keys, and the keys still held. -/
def release (h : Holds) (now : Nat) : List UInt8 × Holds :=
  ((h.expired now).map fun k => UInt8.ofNat k.val, h.dropExpired now)

end Holds

end Chip8
