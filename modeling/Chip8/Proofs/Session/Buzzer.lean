import Chip8.Proofs.Session.Phase
import Chip8.Session.Loop
import Mathlib.Control.Monad.Basic

/-! # The buzzer follows the sound timer

    The last thing that an advance does is to compare the buzzer with the sound timer and, if they
    differ, to call the buzzer, once. The buzzer is then as that call has left it, and its answer is
    in the journal (`Answered`). A call may be refused. Then the buzzer is on or off as it was
    before, nothing else has come of it, and since the two still differ the next advance that gets
    so far calls again. An advance that ends early leaves the buzzer alone; the loop, which it ends,
    turns the buzzer off itself.

    What is said here of one advance (`Tuning`) is proved by cases on its course, and carried along
    a schedule: the buzzer goes on and off in turns (`Toggles`). -/

namespace Chip8

open Chip8.Action

/-! ## Section 1: Buzzers that do what they are told -/

/-- A buzzer that a call turns on or off as it was asked, or, if it is refused, leaves as it is. -/
class ReliableBuzzer (β : Type) [Buzzer β] : Prop where
  obeyed (on : Bool) (b : β) :
    (Buzzer.turn on b).result = .ok () → Buzzer.sounding (Buzzer.turn on b).state = on
  refused (on : Bool) (b : β) :
    (Buzzer.turn on b).result ≠ .ok () →
      Buzzer.sounding (Buzzer.turn on b).state = Buzzer.sounding b

instance : ReliableBuzzer Mute where
  obeyed _ _ _ := rfl
  refused _ _ h := absurd rfl h

instance {β : Type} [Buzzer β] [ReliableBuzzer β] : ReliableBuzzer (Unreliable β) where
  obeyed on b := by
    change (if b.refuses then b.refuse else b.pass (Buzzer.turn on)).result = .ok () →
      Buzzer.sounding (if b.refuses then b.refuse else b.pass (Buzzer.turn on)).state.device = on
    split
    · exact nofun
    · exact ReliableBuzzer.obeyed on b.device
  refused on b := by
    change (if b.refuses then b.refuse else b.pass (Buzzer.turn on)).result ≠ .ok () →
      Buzzer.sounding (if b.refuses then b.refuse else b.pass (Buzzer.turn on)).state.device =
        Buzzer.sounding b.device
    split
    · exact fun _ => rfl
    · exact ReliableBuzzer.refused on b.device

/-- The calls to the buzzer in a journal. -/
def buzzerCalls (acts : List Act) : List Act := acts.filter (·.phase? = some .buzzer)

@[simp] theorem buzzerCalls_append (earlier later : List Act) :
    buzzerCalls (earlier ++ later) = buzzerCalls earlier ++ buzzerCalls later :=
  actsOf_append .buzzer earlier later

/-- There are none in other phases. -/
theorem buzzerCalls_of_suits {phase : Phase} {acts : List Act} (h : ∀ act ∈ acts, act.Suits phase)
    (hne : .buzzer ≠ phase) : buzzerCalls acts = [] :=
  actsOf_of_suits h hne

/-- There are none in notes either. -/
theorem buzzerCalls_of_notes {acts : List Act} (h : ∀ act ∈ acts, act.IsNote) :
    buzzerCalls acts = [] :=
  actsOf_of_notes h .buzzer

/-- The state that the buzzer was turned to, if the act is that it was. -/
def Act.switch? : Act → Option Bool
  | .buzzed on => some on
  | _ => none

/-- The buzzer gets from one state to another by switches that turn it on and off in turns. -/
inductive Toggles : Bool → List Bool → Bool → Prop
  | nil (on : Bool) : Toggles on [] on
  | cons {on last : Bool} {switches : List Bool} (h : Toggles (!on) switches last) :
    Toggles on ((!on) :: switches) last

theorem Toggles.append {on off last : Bool} {earlier later : List Bool}
    (h : Toggles on earlier off) (h' : Toggles off later last) :
    Toggles on (earlier ++ later) last := by
  induction h with
  | nil => exact h'
  | cons _ ih => exact (ih h').cons

namespace Session

variable {σ δ ι β : Type}

/-- Does the sound timer ask for sound? -/
def active (s : Session σ δ ι β) : Bool := s.interpreter.machine.soundActive

/-- Is the buzzer on? -/
def sounding [Buzzer β] (s : Session σ δ ι β) : Bool := Buzzer.sounding s.buzzer

/-! ## Section 2: One advance -/

/-- The buzzer was not called, and is as it was. -/
structure Uncalled (b : β) (s' : Session σ δ ι β) (acts : List Act) : Prop where
  calls : buzzerCalls acts = []
  buzzer : s'.buzzer = b

/-- The buzzer was called once, to be turned on or off. It is as this call has left it, and the
    journal has its answer. -/
structure Answered [Buzzer β] (on : Bool) (b : β) (s' : Session σ δ ι β) (acts : List Act) :
    Prop where
  buzzer : s'.buzzer = (Buzzer.turn on b).state
  obeyed : (Buzzer.turn on b).result = .ok () → buzzerCalls acts = [.buzzed on]
  refused : ∀ fault, (Buzzer.turn on b).result = .error fault →
    buzzerCalls acts = [.buzzRefused on]

theorem Uncalled.append {s s' : Session σ δ ι β} {b : β} {acts more : List Act}
    (h : Uncalled b s acts) (h' : Uncalled s.buzzer s' more) : Uncalled b s' (acts ++ more) where
  calls := by rw [buzzerCalls_append, h.calls, h'.calls, List.append_nil]
  buzzer := h'.buzzer.trans h.buzzer

theorem uncalled_hear [Input ι] [DiscreetInput ι] {now : Nat} {s : Session σ δ ι β}
    {turn : Turn (Session σ δ ι β) Flow} (h : hear now s = turn) :
    Uncalled s.buzzer turn.state turn.acts where
  calls := buzzerCalls_of_suits ((enters_hear now).mem h) nofun
  buzzer := (keeps_hear Session.buzzer (fun _ _ _ => rfl) now).eq h

theorem uncalled_work [ByteSource σ] {elapsed : Nat} {s : Session σ δ ι β}
    {turn : Turn (Session σ δ ι β) Unit} (h : work elapsed s = turn) :
    Uncalled s.buzzer turn.state turn.acts where
  calls := buzzerCalls_of_suits ((enters_work elapsed).mem h) nofun
  buzzer := (keeps_work Session.buzzer (fun _ _ _ _ => rfl) elapsed).eq h

theorem uncalled_drawUpTo [Display δ] [DiscreetDisplay δ] {target : Nat} {s : Session σ δ ι β}
    {turn : Turn (Session σ δ ι β) Unit} (h : drawUpTo target s = turn) :
    Uncalled s.buzzer turn.state turn.acts where
  calls := buzzerCalls_of_suits ((enters_drawUpTo target).mem h) nofun
  buzzer := (keeps_drawUpTo Session.buzzer (fun _ _ _ => rfl) target).eq h

section

variable [Buzzer β]

/-- A call to the buzzer is answered by it, and what it notes is no call of its own. -/
theorem buzz_answered [DiscreetBuzzer β] (on : Bool) (s : Session σ δ ι β) :
    Answered on s.buzzer (buzz on s).state (buzz on s).acts := by
  have hnotes := buzzerCalls_of_notes (DiscreetBuzzer.turn on s.buzzer)
  refine ⟨rfl, fun hok => ?_, fun fault herror => ?_⟩
  · simp only [buzz, hok, buzzerCalls_append, hnotes]
    rfl
  · simp only [buzz, herror, buzzerCalls_append, hnotes]
    rfl

/-- The buzzer `b` was matched with what it is wanted to be. -/
inductive Matched (on : Bool) (b : β) (s' : Session σ δ ι β) (acts : List Act) : Prop
  /-- Nothing, if they agree. -/
  | agreed (h : Buzzer.sounding b = on) (huncalled : Uncalled b s' acts)
  /-- If not, a call. -/
  | differed (h : Buzzer.sounding b ≠ on) (hanswered : Answered on b s' acts)

theorem Matched.answered {on : Bool} {b : β} {s' : Session σ δ ι β} {acts : List Act}
    (h : Matched on b s' acts) (hdiffers : Buzzer.sounding b ≠ on) : Answered on b s' acts := by
  cases h with
  | agreed hagrees => exact absurd hagrees hdiffers
  | differed _ hanswered => exact hanswered

section

variable [ReliableBuzzer β] {on : Bool} {b : β} {s' : Session σ δ ι β} {acts : List Act}

/-- A buzzer that refuses stays as it is. -/
theorem Matched.refused (h : Matched on b s' acts) (hdiffers : Buzzer.sounding b ≠ on)
    {fault : Fault} (hfault : (Buzzer.turn on b).result = .error fault) :
    buzzerCalls acts = [.buzzRefused on] ∧ s'.sounding = Buzzer.sounding b := by
  have hanswered := h.answered hdiffers
  refine ⟨hanswered.refused fault hfault, ?_⟩
  rw [Session.sounding, hanswered.buzzer]
  exact ReliableBuzzer.refused on b (by simp [hfault])

/-- Any other is as it is wanted to be. -/
theorem Matched.sounding (h : Matched on b s' acts) :
    s'.sounding = on ∨
      Buzzer.sounding b ≠ on ∧ ∃ fault, (Buzzer.turn on b).result = .error fault := by
  rcases h with ⟨hagrees, huncalled⟩ | ⟨hdiffers, hanswered⟩
  · left
    rw [Session.sounding, huncalled.buzzer, hagrees]
  · cases hanswer : (Buzzer.turn on b).result with
    | ok _ =>
      left
      rw [Session.sounding, hanswered.buzzer]
      exact ReliableBuzzer.obeyed on b hanswer
    | error fault => exact .inr ⟨hdiffers, fault, rfl⟩

end

/-- What an advance does about the buzzer. -/
inductive Tuning (s : Session σ δ ι β) (turn : Turn (Session σ δ ι β) Flow) : Prop
  /-- Nothing, if it does not get so far. -/
  | stopped (hresult : turn.result ≠ .ok .carryOn) (h : Uncalled s.buzzer turn.state turn.acts)
  /-- If it does, it matches the buzzer with the sound timer. -/
  | carriedOn (hresult : turn.result = .ok .carryOn)
      (h : Matched turn.state.active s.buzzer turn.state turn.acts)

variable [DiscreetBuzzer β]

theorem matchBuzzer_matched (s : Session σ δ ι β) :
    Matched (matchBuzzer s).state.active s.buzzer (matchBuzzer s).state
      (matchBuzzer s).acts := by
  have hactive : (matchBuzzer s).state.active = s.active :=
    keeps_matchBuzzer active (fun _ _ => rfl) s
  rw [hactive]
  by_cases hagrees : s.active = s.sounding
  · have hnothing : matchBuzzer s = ⟨s, .ok (), []⟩ := (matchBuzzer_eq s).trans (if_pos hagrees)
    rw [hnothing]
    exact .agreed hagrees.symm ⟨rfl, rfl⟩
  · have hbuzz : matchBuzzer s = buzz s.active s := (matchBuzzer_eq s).trans (if_neg hagrees)
    rw [hbuzz]
    exact .differed (Ne.symm hagrees) (buzz_answered s.active s)

variable [ByteSource σ] [Display δ] [Input ι] [DiscreetDisplay δ] [DiscreetInput ι]

theorem Course.tuning {now elapsed : Nat} {s : Session σ δ ι β} {phase : Phase}
    {turn : Turn (Session σ δ ι β) Flow} (h : Course now elapsed s phase turn) :
    Tuning s turn := by
  cases h with
  | stopped hstop => exact .stopped hstop (uncalled_hear rfl)
  | stepFailed hheard hworked =>
    exact .stopped nofun ((uncalled_hear hheard).append (uncalled_work hworked))
  | drawRefused hheard hworked hdrawn =>
    exact .stopped nofun
      ((uncalled_hear hheard).append ((uncalled_work hworked).append (uncalled_drawUpTo hdrawn)))
  | @finished s₁ s₂ s₃ s₄ told done shown sounded hheard hworked hdrawn hmatched =>
    obtain ⟨hnone, hbefore⟩ :=
      (uncalled_hear hheard).append ((uncalled_work hworked).append (uncalled_drawUpTo hdrawn))
    have hcalls : buzzerCalls (told ++ (done ++ (shown ++ sounded))) = buzzerCalls sounded := by
      rw [← List.append_assoc done, ← List.append_assoc told, buzzerCalls_append, hnone,
        List.nil_append]
    -- up to here nothing has been done about the buzzer
    have hmatch := matchBuzzer_matched s₃
    rw [hmatched, hbefore] at hmatch
    refine .carriedOn rfl ?_
    rcases hmatch with ⟨hagrees, hnocalls, hsame⟩ | ⟨hdiffers, hstate, hobeyed, hrefused⟩
    · exact .agreed hagrees ⟨hcalls.trans hnocalls, hsame⟩
    · exact .differed hdiffers ⟨hstate, fun hok => hcalls.trans (hobeyed hok),
        fun fault herror => hcalls.trans (hrefused fault herror)⟩

theorem advance_tuning (now elapsed : Nat) (s : Session σ δ ι β) :
    Tuning s (advance now elapsed s) :=
  (advance_course now elapsed s).tuning

end

/-! ### What follows for its calls -/

section

variable [Buzzer β] {on : Bool} {b : β} {s s' : Session σ δ ι β} {acts : List Act}
  {turn : Turn (Session σ δ ι β) Flow}

/-- The call that a buzzer has answered is the one entry about it. -/
theorem Answered.calls (h : Answered on b s' acts) :
    (buzzerCalls acts).map Act.buzz? = [some on] := by
  cases hanswer : (Buzzer.turn on b).result with
  | ok _ =>
    rw [h.obeyed hanswer]
    rfl
  | error fault =>
    rw [h.refused fault hanswer]
    rfl

/-- There is at most one call, by an advance that gets to its end, and to change the buzzer. -/
theorem Tuning.sparing (h : Tuning s turn) :
    (buzzerCalls turn.acts).length ≤ 1 ∧
      ∀ call ∈ buzzerCalls turn.acts,
        turn.result = .ok .carryOn ∧ call.buzz? = some !s.sounding := by
  rcases h with ⟨-, huncalled⟩ | ⟨hresult, ⟨-, huncalled⟩ | ⟨hdiffers, hanswered⟩⟩
  · simp [huncalled.calls]
  · simp [huncalled.calls]
  · have hcalls := hanswered.calls
    have hwanted : turn.state.active = !s.sounding := Bool.eq_not.mpr hdiffers.symm
    obtain ⟨call, hcall, hbuzz⟩ := List.map_eq_singleton_iff.mp hcalls
    rw [hcall]
    exact ⟨Nat.le_refl 1, List.forall_mem_singleton.mpr ⟨hresult, hwanted ▸ hbuzz⟩⟩

theorem Tuning.uncalled (h : Tuning s turn) (hresult : turn.result ≠ .ok .carryOn) :
    Uncalled s.buzzer turn.state turn.acts := by
  cases h with
  | stopped _ huncalled => exact huncalled
  | carriedOn hcarryOn => exact absurd hcarryOn hresult

theorem Tuning.matched (h : Tuning s turn) (hresult : turn.result = .ok .carryOn) :
    Matched turn.state.active s.buzzer turn.state turn.acts := by
  cases h with
  | stopped hstopped => exact absurd hresult hstopped
  | carriedOn _ hmatched => exact hmatched

theorem Uncalled.toggles (h : Uncalled b s' acts) :
    Toggles (Buzzer.sounding b) ((buzzerCalls acts).filterMap Act.switch?) s'.sounding := by
  rw [h.calls, Session.sounding, h.buzzer]
  exact .nil _

theorem Matched.toggles [ReliableBuzzer β] (h : Matched on b s' acts) :
    Toggles (Buzzer.sounding b) ((buzzerCalls acts).filterMap Act.switch?) s'.sounding := by
  rcases h with ⟨-, huncalled⟩ | ⟨hdiffers, hanswered⟩
  · exact huncalled.toggles
  rw [Session.sounding, hanswered.buzzer]
  cases hanswer : (Buzzer.turn on b).result with
  | ok _ =>
    -- a buzzer that was called on to change and obeyed has changed
    obtain rfl : on = !Buzzer.sounding b := Bool.eq_not.mpr hdiffers.symm
    rw [hanswered.obeyed hanswer, ReliableBuzzer.obeyed _ b hanswer]
    exact .cons (.nil _)
  | error fault =>
    rw [hanswered.refused fault hanswer, ReliableBuzzer.refused on b (by simp [hanswer])]
    exact .nil _

theorem Tuning.toggles [ReliableBuzzer β] (h : Tuning s turn) :
    Toggles s.sounding ((buzzerCalls turn.acts).filterMap Act.switch?) turn.state.sounding := by
  cases h with
  | stopped _ huncalled => exact huncalled.toggles
  | carriedOn _ hmatched => exact hmatched.toggles

end

/-! ## Section 3: Schedules -/

section

variable [ByteSource σ] [Display δ] [Input ι] [Buzzer β] [DiscreetDisplay δ] [DiscreetInput ι]
  [DiscreetBuzzer β]

theorem toggles_after [ReliableBuzzer β] (schedule : List (Nat × Nat)) (s : Session σ δ ι β) :
    let calls := buzzerCalls ((advances schedule s).flatMap Turn.acts)
    Toggles s.sounding (calls.filterMap Act.switch?) (after schedule s).sounding := by
  induction schedule generalizing s with
  | nil => exact .nil _
  | cons time later ih =>
    obtain ⟨now, elapsed⟩ := time
    have hadvance := (advance_tuning now elapsed s).toggles
    have hlater := ih (advance now elapsed s).state
    simp only [advances, after, List.flatMap_cons, buzzerCalls_append, List.filterMap_append]
    exact hadvance.append hlater

/-- Advances that do not carry on leave the buzzer alone. -/
theorem buzzer_after {schedule : List (Nat × Nat)} {s : Session σ δ ι β}
    (h : ∀ turn ∈ advances schedule s, turn.result ≠ .ok .carryOn) :
    (after schedule s).buzzer = s.buzzer := by
  induction schedule generalizing s with
  | nil => rfl
  | cons time later ih =>
    obtain ⟨now, elapsed⟩ := time
    rw [advances, List.forall_mem_cons] at h
    exact (ih h.2).trans ((advance_tuning now elapsed s).uncalled h.1).buzzer

/-- So the next advance that carries on finds the buzzer as it was left. -/
theorem matched_later {schedule : List (Nat × Nat)} {s : Session σ δ ι β}
    (h : ∀ turn ∈ advances schedule s, turn.result ≠ .ok .carryOn) (now elapsed : Nat) :
    let turn := advance now elapsed (after schedule s)
    turn.result = .ok .carryOn → Matched turn.state.active s.buzzer turn.state turn.acts := by
  intro turn hresult
  rw [← buzzer_after h]
  exact (advance_tuning now elapsed (after schedule s)).matched hresult

end

/-! ## Section 4: Any other buzzer -/

/-- The session with another buzzer, maybe of another kind. -/
def withBuzzer {β' : Type} (s : Session σ δ ι β) (buzzer : β') : Session σ δ ι β' :=
  { interpreter := s.interpreter, display := s.display, input := s.input, buzzer
    rates := s.rates, counts := s.counts }

/-- Sessions that differ in their buzzers at the most. -/
def SameButBuzzer {β' : Type} (s : Session σ δ ι β) (t : Session σ δ ι β') : Prop :=
  ∃ buzzer, t = s.withBuzzer buzzer

section

variable {β' : Type}

theorem agree_apply (events : List KeyEvent) :
    Agree SameButBuzzer (apply events : Action (Session σ δ ι β) Flow)
      (apply events : Action (Session σ δ ι β') Flow) := by
  have hcall : ∀ x : Action (Interpreter σ) Unit,
      Agree SameButBuzzer (onInterpreter x : Action (Session σ δ ι β) Unit)
        (onInterpreter x : Action (Session σ δ ι β') Unit) := by
    rintro x s _ ⟨buzzer, rfl⟩
    exact ⟨rfl, buzzer, rfl⟩
  induction events with
  | nil => exact agree_pure _
  | cons event rest ih =>
    cases event with
    | quit =>
      exact agree_state_bind fun _ _ _ => (agree_record _ _).bind fun _ => agree_pure _
    | down key => exact (hcall _).bind fun _ => ih
    | up key => exact (hcall _).bind fun _ => ih

theorem agree_poll [Input ι] (now : Nat) :
    Agree SameButBuzzer (poll now : Action (Session σ δ ι β) (List KeyEvent))
      (poll now : Action (Session σ δ ι β') (List KeyEvent)) := by
  refine Agree.bind ?_ fun _ => (agree_record _ _).bind fun _ => agree_pure _
  rintro s _ ⟨buzzer, rfl⟩
  exact ⟨rfl, buzzer, rfl⟩

theorem agree_drawUpTo [Display δ] (target : Nat) :
    Agree SameButBuzzer (drawUpTo target : Action (Session σ δ ι β) Unit)
      (drawUpTo target : Action (Session σ δ ι β') Unit) := by
  rintro s _ ⟨buzzer, rfl⟩
  by_cases hlate : s.counts.frame < target
  · have hlate' : (s.withBuzzer buzzer).counts.frame < target := hlate
    simp only [drawUpTo, if_pos hlate, if_pos hlate']
    dsimp only [withBuzzer]
    split <;> exact ⟨rfl, buzzer, rfl⟩
  · have hlate' : ¬ (s.withBuzzer buzzer).counts.frame < target := hlate
    simp only [drawUpTo, if_neg hlate, if_neg hlate']
    exact ⟨trivial, buzzer, rfl⟩

variable [Buzzer β] [Buzzer β']

theorem agree_matchBuzzer :
    Agree SameButBuzzer (matchBuzzer : Action (Session σ δ ι β) Unit)
      (matchBuzzer : Action (Session σ δ ι β') Unit) := by
  rintro s _ ⟨buzzer, rfl⟩
  refine ⟨(matchBuzzer_result s).trans (matchBuzzer_result _).symm, ?_⟩
  refine ⟨(matchBuzzer (s.withBuzzer buzzer)).state.buzzer, ?_⟩
  rw [matchBuzzer_eq, matchBuzzer_eq]
  dsimp only
  split <;> split <;> rfl

variable [ByteSource σ] [Display δ]

theorem agree_catchUp (elapsed : Nat) :
    Agree SameButBuzzer (catchUp elapsed : Action (Session σ δ ι β) Unit)
      (catchUp elapsed : Action (Session σ δ ι β') Unit) := by
  refine agree_state_bind ?_
  rintro s _ ⟨_, rfl⟩
  have htick : ∀ target,
      Agree SameButBuzzer (tickUpTo target : Action (Session σ δ ι β) Unit)
        (tickUpTo target : Action (Session σ δ ι β') Unit) := by
    rintro target s _ ⟨buzzer, rfl⟩
    exact ⟨rfl, buzzer, rfl⟩
  have hstep : ∀ target,
      Agree SameButBuzzer (stepUpTo target : Action (Session σ δ ι β) Unit)
        (stepUpTo target : Action (Session σ δ ι β') Unit) := by
    rintro target s _ ⟨buzzer, rfl⟩
    exact ⟨rfl, buzzer, rfl⟩
  exact (htick _).bind fun _ => (hstep _).bind fun _ => (agree_drawUpTo _).bind fun _ =>
    agree_matchBuzzer

variable [Input ι]

theorem agree_advance (now elapsed : Nat) :
    Agree SameButBuzzer (advance now elapsed : Action (Session σ δ ι β) Flow)
      (advance now elapsed : Action (Session σ δ ι β') Flow) := by
  refine (agree_poll now).bind fun events => (agree_apply events).bind fun flow => ?_
  cases flow with
  | quit => exact agree_pure _
  | carryOn => exact (agree_catchUp elapsed).bind fun _ => agree_pure _

/-- What the buzzer is and does makes no difference to anything else in a session. -/
theorem agree_after (schedule : List (Nat × Nat)) {s : Session σ δ ι β} {t : Session σ δ ι β'}
    (h : SameButBuzzer s t) :
    (advances schedule s).map Turn.result = (advances schedule t).map Turn.result ∧
      SameButBuzzer (after schedule s) (after schedule t) := by
  induction schedule generalizing s t with
  | nil => exact ⟨rfl, h⟩
  | cons time later ih =>
    obtain ⟨hresult, hstates⟩ := agree_advance time.1 time.2 s t h
    obtain ⟨hresults, hlast⟩ := ih hstates
    exact ⟨List.cons_eq_cons.mpr ⟨hresult, hresults⟩, hlast⟩

end

/-! ## Section 5: The loop -/

/-- The times at which a loop advances the session: the input is told how much time has passed. -/
def onTheClock (readings : List Nat) : List (Nat × Nat) :=
  readings.map fun reading => (reading, reading)

section

variable [Buzzer β]

/-- A loop goes on exactly after the advances that carry on. -/
theorem ending_eq_none_iff (turn : Turn (Session σ δ ι β) Flow) :
    ending turn = none ↔ turn.result = .ok .carryOn := by
  unfold ending
  split
  case h_1 hcarryOn => exact ⟨fun _ => hcarryOn, fun _ => rfl⟩
  case h_2 hquit => simp [hquit]
  case h_3 fault hfault => simp [hfault]

/-- When it ends it is with the result of the last advance, and the buzzer is turned off. -/
theorem ending_eq_some {turn : Turn (Session σ δ ι β) Flow}
    {last : Turn (Session σ δ ι β) Unit} (h : ending turn = some last) :
    turn.result ≠ .ok .carryOn ∧ last.result = turn.result.map (fun _ => ()) ∧
      last.state = (silence turn.state).state ∧
      last.acts = turn.acts ++ (silence turn.state).acts := by
  unfold ending at h
  split at h
  case h_1 => cases h
  case h_2 hquit =>
    cases h
    rw [hquit]
    exact ⟨nofun, rfl, rfl, rfl⟩
  case h_3 fault hfault =>
    cases h
    rw [hfault]
    exact ⟨nofun, rfl, rfl, rfl⟩

/-- The loop over `readings` ends with the advance at `reading`. -/
structure EndsAt [ByteSource σ] [Display δ] [Input ι] (readings : List Nat) (reading : Nat)
    (s : Session σ δ ι β) (turn : Turn (Session σ δ ι β) Unit) : Prop where
  /-- All advances before it carry on. -/
  carryOn : ∀ earlier ∈ advances (onTheClock readings) s, earlier.result = .ok .carryOn
  stops : (advance reading reading (after (onTheClock readings) s)).result ≠ .ok .carryOn
  result : turn.result =
    (advance reading reading (after (onTheClock readings) s)).result.map fun _ => ()
  /-- The buzzer is turned off after it. -/
  state : turn.state =
    (silence (advance reading reading (after (onTheClock readings) s)).state).state
  acts : turn.acts =
    (advances (onTheClock (readings ++ [reading])) s).flatMap Turn.acts ++
      (silence (advance reading reading (after (onTheClock readings) s)).state).acts

theorem run_endsAt [ByteSource σ] [Display δ] [Input ι] {readings : List Nat}
    {s : Session σ δ ι β} {turn : Turn (Session σ δ ι β) Unit} (h : run readings s = some turn) :
    ∃ earlier reading later, readings = earlier ++ reading :: later ∧
      EndsAt earlier reading s turn := by
  induction readings generalizing s turn with
  | nil => cases h
  | cons reading later ih =>
    rw [run] at h
    cases hending : ending (advance reading reading s) with
    | some last =>
      rw [hending] at h
      cases h
      obtain ⟨hstops, hresult, hstate, hacts⟩ := ending_eq_some hending
      refine ⟨[], reading, later, rfl, nofun, hstops, hresult, hstate, hacts.trans ?_⟩
      simp [onTheClock, advances, after]
    | none =>
      rw [hending] at h
      obtain ⟨rest, hrest, rfl⟩ := Option.map_eq_some_iff.mp h
      obtain ⟨earlier, last, later, rfl, hends⟩ := ih hrest
      refine ⟨reading :: earlier, last, later, rfl, ?_, hends.stops, hends.result, hends.state, ?_⟩
      · exact List.forall_mem_cons.mpr ⟨(ending_eq_none_iff _).mp hending, hends.carryOn⟩
      · simp only [hends.acts]
        simp [onTheClock, advances, after]

theorem silence_eq (s : Session σ δ ι β) :
    silence s =
      (if s.sounding then buzz false else pure () : Action (Session σ δ ι β) Unit) s :=
  rfl

/-- To silence a session is to match its buzzer with silence. -/
theorem silence_matched [DiscreetBuzzer β] (s : Session σ δ ι β) :
    Matched false s.buzzer (silence s).state (silence s).acts := by
  rw [silence_eq]
  cases hsounding : s.sounding with
  | false => exact .agreed hsounding ⟨rfl, rfl⟩
  | true => exact .differed (ne_of_eq_of_ne hsounding nofun) (buzz_answered false s)

end

/-! ## Section 6: The main result -/

/-- In a new session whose buzzer is off, and whatever its advances come to, the calls that the
    buzzer obeys turn it on and off in turns. An advance makes one call at the most, only if it
    carries on, and only to change the buzzer. One that does not carry on leaves the buzzer as it
    was. One that does matches it with the sound timer: if they agree it is left as it was as well,
    and if not it is called once and is what that call makes of it. Then it is on exactly if the
    sound timer is above zero, unless it refused. If it did it is on or off as before, and is called
    again by the next advance that gets so far, if that is still called for. Nothing else depends on
    the buzzer: with any other in its place, all results are the same, and so is the session but for
    the buzzer. When the loop ends, it is with the result of the first advance that does not carry
    on, and with the buzzer matched with silence: it is off, unless it refused to be turned off. -/
theorem buzzer_follows_sound_timer [ByteSource σ] [Display δ] [Input ι] [Buzzer β]
    [DiscreetDisplay δ] [DiscreetInput ι] [DiscreetBuzzer β] [ReliableBuzzer β]
    (interpreter : Interpreter σ) (display : δ) (input : ι) (buzzer : β) (rates : Rates)
    (hoff : Buzzer.sounding buzzer = false) :
    let s : Session σ δ ι β := { interpreter, display, input, buzzer, rates }
    (∀ schedule,
      let last := after schedule s
      let calls := buzzerCalls ((advances schedule s).flatMap Turn.acts)
      Toggles false (calls.filterMap Act.switch?) last.sounding ∧
      (∀ now elapsed,
        let turn := advance now elapsed last
        let wanted := turn.state.active
        (buzzerCalls turn.acts).length ≤ 1 ∧
        (∀ call ∈ buzzerCalls turn.acts,
          turn.result = .ok .carryOn ∧ call.buzz? = some !last.sounding) ∧
        (turn.result ≠ .ok .carryOn → Uncalled last.buzzer turn.state turn.acts) ∧
        (turn.result = .ok .carryOn →
          Matched wanted last.buzzer turn.state turn.acts ∧
          (turn.state.sounding = wanted ∨
            wanted ≠ last.sounding ∧
              ∃ fault, (Buzzer.turn wanted last.buzzer).result = .error fault) ∧
          ∀ fault, wanted ≠ last.sounding →
            (Buzzer.turn wanted last.buzzer).result = .error fault →
            buzzerCalls turn.acts = [.buzzRefused wanted] ∧
            turn.state.sounding = last.sounding ∧
            ∀ skipped, (∀ later ∈ advances skipped turn.state, later.result ≠ .ok .carryOn) →
              ∀ now elapsed,
                let next := advance now elapsed (after skipped turn.state)
                next.result = .ok .carryOn → next.state.active = wanted →
                  Answered wanted turn.state.buzzer next.state next.acts)) ∧
      ∀ {β' : Type} [Buzzer β'] (other : β'),
        let t := s.withBuzzer other
        (advances schedule s).map Turn.result = (advances schedule t).map Turn.result ∧
          SameButBuzzer last (after schedule t)) ∧
    ∀ readings turn, run readings s = some turn →
      ∃ earlier reading later, readings = earlier ++ reading :: later ∧
        EndsAt earlier reading s turn ∧
        let last := (advance reading reading (after (onTheClock earlier) s)).state
        Matched false last.buzzer turn.state (silence last).acts ∧
        (turn.state.sounding = false ∨
          last.sounding = true ∧
            ∃ fault, (Buzzer.turn false last.buzzer).result = .error fault) := by
  intro s
  refine ⟨fun schedule => ?_, fun readings turn hrun => ?_⟩
  · intro last calls
    have htoggles := toggles_after schedule s
    have hstart : s.sounding = false := hoff
    rw [hstart] at htoggles
    refine ⟨htoggles, fun now elapsed => ?_, fun other => agree_after schedule ⟨other, rfl⟩⟩
    intro turn wanted
    have htuning : Tuning last turn := advance_tuning now elapsed last
    obtain ⟨hone, honly⟩ := htuning.sparing
    refine ⟨hone, honly, htuning.uncalled, fun hresult => ?_⟩
    have hmatched := htuning.matched hresult
    refine ⟨hmatched, ?_, fun fault hdiffers hfault => ?_⟩
    · exact hmatched.sounding.imp_right (And.imp_left Ne.symm)
    · obtain ⟨hcalls, hsounding⟩ := hmatched.refused (Ne.symm hdiffers) hfault
      refine ⟨hcalls, hsounding, fun skipped hskipped now elapsed => ?_⟩
      intro next hnext hwanted
      have hagain := matched_later hskipped now elapsed hnext
      rw [hwanted] at hagain
      exact hagain.answered fun hagrees => hdiffers (hagrees.symm.trans hsounding)
  · obtain ⟨earlier, reading, later, hreadings, hends⟩ := run_endsAt hrun
    refine ⟨earlier, reading, later, hreadings, hends, ?_⟩
    rw [hends.state]
    have hmatched := silence_matched (advance reading reading (after (onTheClock earlier) s)).state
    exact ⟨hmatched, hmatched.sounding.imp_right (And.imp_left eq_true_of_ne_false)⟩

/-- A machine that waits for a key with the sound timer at 3, and a buzzer that refuses its first
    call. The fourth poll brings the wish to stop. -/
def startled : Session Stride FrameKeeper Script (Unreliable Mute) where
  interpreter := ⟨{ Machine.fresh with mode := .awaitingKey 3, sound := 3 }, ⟨1, 0⟩⟩
  display := {}
  input := ⟨[[], [], [], [.quit]]⟩
  buzzer := { device := {}, refusal := "no sound", failing := [0] }
  rates := {}

/-- The same session with a buzzer that never refuses. -/
def hushed : Session Stride FrameKeeper Script Mute := startled.withBuzzer {}

/-- The call that the first advance makes in vain is made again by the second, and obeyed. When the
    loop ends with the fourth, the buzzer has been on and is off. One that never refuses follows the
    sound timer after every advance that carries on, and is off whenever the loop has ended. -/
theorem startled_buzzer :
    Buzzer.sounding startled.buzzer = false ∧ Buzzer.sounding hushed.buzzer = false ∧
    buzzerCalls (advance 0 0 startled).acts = [.buzzRefused true] ∧
    buzzerCalls (advance 0 pause (advance 0 0 startled).state).acts = [.buzzed true] ∧
    (∃ turn, run (readings 4) startled = some turn ∧ turn.state.sounding = false ∧
      ∃ earlier reading later, readings 4 = earlier ++ reading :: later ∧
        EndsAt earlier reading startled turn) ∧
    (∀ schedule now elapsed,
      let turn := advance now elapsed (after schedule hushed)
      turn.result = .ok .carryOn → turn.state.sounding = turn.state.active) ∧
    ∀ readings turn, run readings hushed = some turn → turn.state.sounding = false := by
  have hoff : Buzzer.sounding startled.buzzer = false := rfl
  have hhushed : Buzzer.sounding hushed.buzzer = false := rfl
  obtain ⟨hadvances, hruns⟩ := buzzer_follows_sound_timer startled.interpreter startled.display
    startled.input startled.buzzer startled.rates hoff
  obtain ⟨hfollows, hends⟩ := buzzer_follows_sound_timer hushed.interpreter hushed.display
    hushed.input hushed.buzzer hushed.rates hhushed
  refine ⟨hoff, hhushed, ?_, ?_, ?_, fun schedule now elapsed => ?_, fun readings turn hrun => ?_⟩
  · obtain ⟨-, hadvance, -⟩ := hadvances []
    obtain ⟨-, -, -, hcarryOn⟩ := hadvance 0 0
    obtain ⟨-, -, hrefused⟩ := hcarryOn (by decide +kernel)
    exact (hrefused (.device "no sound") (by decide +kernel) (by decide +kernel)).1
  · obtain ⟨-, hadvance, -⟩ := hadvances []
    obtain ⟨-, -, -, hcarryOn⟩ := hadvance 0 0
    obtain ⟨-, -, hrefused⟩ := hcarryOn (by decide +kernel)
    obtain ⟨-, -, hagain⟩ :=
      hrefused (.device "no sound") (by decide +kernel) (by decide +kernel)
    have hanswered := hagain [] nofun 0 pause (by decide +kernel) (by decide +kernel)
    exact hanswered.obeyed (by decide +kernel)
  · have hsome : (run (readings 4) startled).isSome = true := by decide +kernel
    obtain ⟨turn, hturn⟩ := Option.isSome_iff_exists.mp hsome
    obtain ⟨earlier, reading, later, hreadings, hends, -⟩ := hruns (readings 4) turn hturn
    have hsilent : (run (readings 4) startled).all (!·.state.sounding) = true := by decide +kernel
    rw [hturn] at hsilent
    exact ⟨turn, hturn, by simpa using hsilent, earlier, reading, later, hreadings, hends⟩
  · -- this buzzer has no refusals
    intro turn hresult
    obtain ⟨-, hadvance, -⟩ := hfollows schedule
    obtain ⟨-, -, -, hcarryOn⟩ := hadvance now elapsed
    obtain ⟨-, hsounding, -⟩ := hcarryOn hresult
    rcases hsounding with hsounding | ⟨-, fault, hfault⟩
    · exact hsounding
    · cases hfault
  · obtain ⟨earlier, reading, later, -, -, -, hsounding⟩ := hends readings turn hrun
    rcases hsounding with hsounding | ⟨-, fault, hfault⟩
    · exact hsounding
    · cases hfault

end Session

end Chip8
