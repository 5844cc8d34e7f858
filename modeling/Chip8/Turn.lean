import Chip8.Fault
import Chip8.Journal

/-! # Turns

    One call to a machine or a device is a *turn*: the state afterwards, a result or the fault that
    ended the call, and the journal. The state after a fault is whatever the call had reached; a
    turn is not undone. Turns follow one another until one of them fails. -/

namespace Chip8

/-- What one call comes to. -/
structure Turn (S α : Type) where
  /-- The state afterwards. -/
  state : S
  /-- The result, or what went wrong. -/
  result : Except Fault α
  /-- What was done, oldest first. -/
  acts : List Act

/-- A call: a turn for every state. -/
def Action (S α : Type) : Type := S → Turn S α

namespace Action

variable {S T α β : Type}

/-- The call that does nothing. -/
def done (a : α) : Action S α := fun s => ⟨s, .ok a, []⟩

/-- One call after another. The second does not happen if the first fails. -/
def andThen (x : Action S α) (f : α → Action S β) : Action S β := fun s =>
  let first := x s
  match first.result with
  | .error fault => ⟨first.state, .error fault, first.acts⟩
  | .ok a =>
    let second := f a first.state
    ⟨second.state, second.result, first.acts ++ second.acts⟩

instance : Monad (Action S) where
  pure := done
  bind := andThen

/-- The current state. -/
def state : Action S S := fun s => ⟨s, .ok s, []⟩

/-- A change of the state. -/
def update (f : S → S) : Action S Unit := fun s => ⟨f s, .ok (), []⟩

/-- An entry in the journal. -/
def record (act : Act) : Action S Unit := fun s => ⟨s, .ok (), [act]⟩

/-- A call to a part of the state. -/
def onPart (get : S → T) (put : S → T → S) (x : Action T α) : Action S α := fun s =>
  let turn := x (get s)
  ⟨put s turn.state, turn.result, turn.acts⟩

/-! ### Small laws -/

theorem andThen_error {x : Action S α} {f : α → Action S β} {s : S} {fault : Fault}
    (h : (x s).result = .error fault) :
    andThen x f s = ⟨(x s).state, .error fault, (x s).acts⟩ := by
  simp [andThen, h]

theorem andThen_ok {x : Action S α} {f : α → Action S β} {s : S} {a : α}
    (h : (x s).result = .ok a) :
    andThen x f s =
      ⟨(f a (x s).state).state, (f a (x s).state).result,
        (x s).acts ++ (f a (x s).state).acts⟩ := by
  simp [andThen, h]

end Action

end Chip8
