import Chip8.Session.Basic

/-! # Schedules

    A schedule is a list of times at which a session is advanced: what the input is told, and how
    much time has passed. Times may come in any order. An advance that fails or that wishes to stop
    does not end a schedule; whoever would rather leave it there drives the session. -/

namespace Chip8.Session

variable {σ δ ι β : Type} [ByteSource σ] [Display δ] [Input ι] [Buzzer β]

/-- The turns that a schedule makes, first to last. -/
def advances : List (Nat × Nat) → Session σ δ ι β → List (Turn (Session σ δ ι β) Flow)
  | [], _ => []
  | (now, elapsed) :: later, s =>
    let turn := advance now elapsed s
    turn :: advances later turn.state

/-- The session after a schedule. -/
def after : List (Nat × Nat) → Session σ δ ι β → Session σ δ ι β
  | [], s => s
  | (now, elapsed) :: later, s => after later (advance now elapsed s).state

/-- Advance after advance, up to the first that fails or wishes to stop. -/
def drive : List (Nat × Nat) → Action (Session σ δ ι β) Flow
  | [] => Action.done .carryOn
  | (now, elapsed) :: later => do
    match ← advance now elapsed with
    | .quit => return .quit
    | .carryOn => drive later

/-! ### Small laws -/

theorem drive_cons (now elapsed : Nat) (later : List (Nat × Nat)) (s : Session σ δ ι β) :
    drive ((now, elapsed) :: later) s =
      Action.andThen (advance now elapsed) (fun flow => match flow with
        | .quit => Action.done .quit
        | .carryOn => drive later) s :=
  rfl

theorem drive_of_carryOn {now elapsed : Nat} {s : Session σ δ ι β}
    (h : (advance now elapsed s).result = .ok .carryOn) (later : List (Nat × Nat)) :
    (drive ((now, elapsed) :: later) s).result =
        (drive later (advance now elapsed s).state).result ∧
      (drive ((now, elapsed) :: later) s).state =
        (drive later (advance now elapsed s).state).state := by
  rw [drive_cons, Action.andThen_ok h]
  exact ⟨rfl, rfl⟩

theorem drive_of_error {now elapsed : Nat} {s : Session σ δ ι β} {fault : Fault}
    (h : (advance now elapsed s).result = .error fault) (later : List (Nat × Nat)) :
    (drive ((now, elapsed) :: later) s).result = .error fault ∧
      (drive ((now, elapsed) :: later) s).state = (advance now elapsed s).state := by
  rw [drive_cons, Action.andThen_error h]
  exact ⟨rfl, rfl⟩

@[simp] theorem length_advances (schedule : List (Nat × Nat)) (s : Session σ δ ι β) :
    (advances schedule s).length = schedule.length := by
  induction schedule generalizing s with
  | nil => rfl
  | cons time later ih => simp [advances, ih]

theorem after_append (earlier later : List (Nat × Nat)) (s : Session σ δ ι β) :
    after (earlier ++ later) s = after later (after earlier s) := by
  induction earlier generalizing s with
  | nil => rfl
  | cons time rest ih => exact ih (advance time.1 time.2 s).state

theorem advances_append (earlier later : List (Nat × Nat)) (s : Session σ δ ι β) :
    advances (earlier ++ later) s = advances earlier s ++ advances later (after earlier s) := by
  induction earlier generalizing s with
  | nil => rfl
  | cons time rest ih =>
    exact congrArg (List.cons _) (ih (advance time.1 time.2 s).state)

end Chip8.Session
