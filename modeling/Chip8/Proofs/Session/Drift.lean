import Chip8.Proofs.Cadence
import Chip8.Proofs.Session.Counts
import Chip8.Proofs.Session.Frames

/-! # Counts do not drift

    Each target is computed from the time since the start, never from the target before it. So the
    part of an update that a target leaves out is not left out again by the next one: however a
    stretch of time is cut into advances, the updates made in it are those that its length calls
    for, up to less than one update.

    This holds of every cadence whose count is brought up to its target by all advances that get
    past their events (`abs_counts_sub_lt_one`): of ticks in any case, and of steps and frames as
    long as none of them fails. -/

namespace Chip8.Session

open Cadence

variable {σ δ ι β : Type}

/-- The latest of some times. -/
def latest (times : List Nat) : Nat := times.foldl max 0

theorem latest_le_append (earlier later : List Nat) :
    latest earlier ≤ latest (earlier ++ later) := by
  unfold latest
  rw [List.foldl_append]
  exact le_foldl_max later _

section

variable [ByteSource σ] [Display δ] [Input ι] [Buzzer β]

theorem heard_append (earlier later : List (Nat × Nat)) (s : Session σ δ ι β) :
    heard (earlier ++ later) s = heard earlier s ++ heard later (after earlier s) := by
  induction earlier generalizing s with
  | nil => rfl
  | cons time rest ih =>
    obtain ⟨now, elapsed⟩ := time
    simp only [List.cons_append, heard, after, ih]
    split <;> rfl

theorem phases_append (earlier later : List (Nat × Nat)) (s : Session σ δ ι β) :
    phases (earlier ++ later) s = phases earlier s ++ phases later (after earlier s) := by
  induction earlier generalizing s with
  | nil => rfl
  | cons time rest ih => exact congrArg (List.cons _) (ih (advance time.1 time.2 s).state)

variable [DiscreetDisplay δ] [DiscreetInput ι] [DiscreetBuzzer β]

section

variable (rate : Rates → UInt32) (count : Counts → Nat) (served : Phase → Prop)
  (hserved : ∀ now elapsed (s : Session σ δ ι β), served (reached now elapsed s) →
    count (advance now elapsed s).state.counts =
      max (count s.counts) (target elapsed (rate s.rates)))
include hserved

/-- A count that starts at 0 is what is due at the latest time that was heard of. -/
theorem count_eq_target {schedule : List (Nat × Nat)} {s : Session σ δ ι β}
    (hnew : count s.counts = 0)
    (hphases : ∀ phase ∈ phases schedule s, phase ≠ .events → served phase)
    (hfits : Fits (latest (heard schedule s)) (rate s.rates)) :
    count (after schedule s).counts = target (latest (heard schedule s)) (rate s.rates) := by
  have hcount := count_after rate count served hserved schedule s hphases
  -- the 0 it starts at is what is due at 0, which makes it one of the targets
  rw [hnew, ← target_zero (rate s.rates), foldl_max_target hfits] at hcount
  exact hcount

/-- From the end of one schedule to the end of another that follows it, the count goes up by what is
    due in the time between, up to less than one update. -/
theorem abs_counts_sub_lt_one {earlier later : List (Nat × Nat)} {s : Session σ δ ι β}
    (hnew : count s.counts = 0)
    (hphases : ∀ phase ∈ phases (earlier ++ later) s, phase ≠ .events → served phase)
    (hfits : Fits (latest (heard (earlier ++ later) s)) (rate s.rates)) :
    let time := latest (heard (earlier ++ later) s) - latest (heard earlier s)
    |((count (after (earlier ++ later) s).counts : ℚ) - count (after earlier s).counts) -
      exact time (rate s.rates)| < 1 := by
  intro time
  -- no time of the first schedule is later than the latest of both, so its targets fit as well
  have hle : latest (heard earlier s) ≤ latest (heard (earlier ++ later) s) := by
    rw [heard_append]
    exact latest_le_append _ _
  have hearlier : ∀ phase ∈ phases earlier s, phase ≠ .events → served phase := by
    rw [phases_append, List.forall_mem_append] at hphases
    exact hphases.1
  rw [count_eq_target rate count served hserved hnew hphases hfits,
    count_eq_target rate count served hserved hnew hearlier (hfits.of_le hle)]
  exact abs_targets_sub_lt_one hfits hle

end

/-- An advance that gets to its end has drawn a frame or had none to draw. -/
theorem frame_of_reached {now elapsed : Nat} {s : Session σ δ ι β}
    (h : reached now elapsed s = .buzzer) :
    (advance now elapsed s).state.counts.frame =
      max s.counts.frame (target elapsed s.rates.frame) := by
  have hframing := advance_framing now elapsed s
  rw [h] at hframing
  cases hframing with
  | unreached hphase => simp at hphase
  | finished hframed => exact hframed.count

end

/-! ### The main result -/

/-- Time times rate fits into 128 bits, and what is due is the whole part of it in seconds, counted
    in 64 bits. As long as these are enough it is exact: more time and a higher rate make no less
    due, whole seconds make as many due as the rate says, and what is due from one time to another
    is what the time between calls for, up to less than one update. So nothing adds up over the
    advances of a session. From a new session on, let one schedule follow another: in the second,
    ticks are made as its share of the time calls for, up to less than one. The same is true of
    steps, if none fails, and then of frames, if none is refused. -/
theorem updates_are_exact_and_never_drift :
    (∀ (d : Duration) (hz : UInt32),
      d.total * hz.toNat < 2 ^ 128 ∧
      target d.total hz = d.total * hz.toNat / second % 2 ^ 64 ∧
      (target d.total hz = d.total * hz.toNat / second ↔ Fits d.total hz)) ∧
    (∀ elapsed latest hz, Fits latest hz → elapsed ≤ latest →
      target elapsed hz ≤ target latest hz ∧
      |((target latest hz : ℚ) - target elapsed hz) - exact (latest - elapsed) hz| < 1) ∧
    (∀ elapsed hz hz', Fits elapsed hz' → hz ≤ hz' → target elapsed hz ≤ target elapsed hz') ∧
    (∀ seconds hz, Fits (seconds * second) hz →
      target (seconds * second) hz = seconds * hz.toNat) ∧
    ∀ {σ δ ι β : Type} [ByteSource σ] [Display δ] [Input ι] [Buzzer β] [DiscreetDisplay δ]
      [DiscreetInput ι] [DiscreetBuzzer β] (interpreter : Interpreter σ) (display : δ) (input : ι)
      (buzzer : β) (rates : Rates) (earlier later : List (Nat × Nat)),
      let s : Session σ δ ι β := { interpreter, display, input, buzzer, rates }
      let between := (after earlier s).counts
      let last := (after (earlier ++ later) s).counts
      let phases := phases (earlier ++ later) s
      let now := latest (heard (earlier ++ later) s)
      let time := now - latest (heard earlier s)
      (Fits now rates.timer →
        |((last.timer : ℚ) - between.timer) - exact time rates.timer| < 1) ∧
      (Fits now rates.cpu → .work ∉ phases →
        |((last.cpu : ℚ) - between.cpu) - exact time rates.cpu| < 1) ∧
      (Fits now rates.frame → .work ∉ phases → .frame ∉ phases →
        |((last.frame : ℚ) - between.frame) - exact time rates.frame| < 1) := by
  refine ⟨fun d hz => ⟨d.total_mul_lt hz, target_total d hz, target_eq_iff⟩,
    fun elapsed latest hz hfits hle => ⟨target_le hfits hle, abs_targets_sub_lt_one hfits hle⟩,
    fun elapsed hz hz' => target_le_of_rate_le, fun seconds hz => target_seconds, ?_⟩
  intro σ δ ι β _ _ _ _ _ _ _ interpreter display input buzzer rates earlier later s between last
    phases now time
  refine ⟨fun hfits => ?_, fun hfits hwork => ?_, fun hfits hwork hframe => ?_⟩
  · refine abs_counts_sub_lt_one Rates.timer Counts.timer (· ≠ .events) (fun now elapsed s => ?_)
      rfl (fun _ _ hphase => hphase) hfits
    exact (advance_course now elapsed s).accounted.timer
  · refine abs_counts_sub_lt_one Rates.cpu Counts.cpu
      (fun phase => phase = .frame ∨ phase = .buzzer) (fun now elapsed s => ?_) rfl
      (fun phase hphase hevents => ?_) hfits
    · exact (advance_course now elapsed s).accounted.cpu
    · exact Phase.past_work_iff.mpr ⟨hevents, ne_of_mem_of_not_mem hphase hwork⟩
  · refine abs_counts_sub_lt_one Rates.frame Counts.frame (· = .buzzer)
      (fun now elapsed s => frame_of_reached) rfl (fun phase hphase hevents => ?_) hfits
    have hpast := Phase.past_work_iff.mpr ⟨hevents, ne_of_mem_of_not_mem hphase hwork⟩
    exact hpast.resolve_left (ne_of_mem_of_not_mem hphase hframe)

/-- A session that waits for a key. -/
def idle : Session Stride FrameKeeper Script Mute where
  interpreter := ⟨{ Machine.fresh with mode := .awaitingKey 0 }, ⟨1, 0⟩⟩
  display := {}
  input := ⟨[]⟩
  buzzer := {}
  rates := {}

/-- By 33 milliseconds not quite two ticks are due, by 67 a little more than four. So three are made
    in 34 milliseconds, a time that calls for two: that is nearly one too many, but never more. -/
theorem idle_counts_do_not_drift :
    target 33000000 60 ≤ target 67000000 60 ∧ target 67000000 60 ≤ target 67000000 500 ∧
    target (3 * second) 60 = 180 ∧
    let between := (after [(0, 33000000)] idle).counts
    let last := (after ([(0, 33000000)] ++ [(0, 50000000), (0, 67000000)]) idle).counts
    |((last.timer : ℚ) - between.timer) - exact 34000000 60| < 1 ∧
    |((last.cpu : ℚ) - between.cpu) - exact 34000000 500| < 1 ∧
    |((last.frame : ℚ) - between.frame) - exact 34000000 60| < 1 := by
  have hsixty : Fits 67000000 60 := by
    unfold Fits
    decide
  have hfast : Fits 67000000 500 := by
    unfold Fits
    decide
  have hphases : phases ([(0, 33000000)] ++ [(0, 50000000), (0, 67000000)]) idle =
      [.buzzer, .buzzer, .buzzer] := by decide +kernel
  have hall : latest (heard ([(0, 33000000)] ++ [(0, 50000000), (0, 67000000)]) idle) =
      67000000 := by decide +kernel
  have hfirst : latest (heard [(0, 33000000)] idle) = 33000000 := by decide +kernel
  obtain ⟨-, htimes, hrates, hseconds, hsession⟩ := updates_are_exact_and_never_drift
  have heta : (⟨idle.interpreter, idle.display, idle.input, idle.buzzer, idle.rates, {}⟩ :
    Session _ _ _ _) = idle := rfl
  have hidle := hsession idle.interpreter idle.display idle.input idle.buzzer idle.rates
    [(0, 33000000)] [(0, 50000000), (0, 67000000)]
  dsimp only at hidle
  rw [heta, hall, hfirst, hphases] at hidle
  obtain ⟨htimer, hcpu, hframe⟩ := hidle
  refine ⟨(htimes 33000000 67000000 60 hsixty (by decide)).1,
    hrates 67000000 60 500 hfast (by decide), hseconds 3 60 ?_, htimer hsixty,
    hcpu hfast (by decide), hframe hsixty (by decide) (by decide)⟩
  unfold Fits
  decide

end Chip8.Session
