import Chip8.Proofs.Session.Phase
import Mathlib.Logic.Function.Iterate

/-! # What is due is done, and done once

    A session counts the ticks and the steps that it has made, and compares the counts with what is
    due. The counts are true: they agree with the journal after every advance, however it ended, and
    with what has become of the interpreter (`Driven`). And they catch up: an advance that gets past
    the events leaves no tick to be made, and one that gets past the work leaves no step to be made
    either.

    Targets may come in any order, since times may run backwards. A count never goes back with its
    target, so after a schedule it is the largest of the targets that were heard of
    (`timer_after`, `cpu_after`), and it does not matter how the time was cut up. -/

namespace Chip8

namespace Interpreter

variable {σ : Type}

/-- The timers have counted down `count` times, and nothing else has happened. -/
def ticked (i : Interpreter σ) (count : Nat) : Interpreter σ :=
  { i with machine := Machine.tick^[count] i.machine }

theorem ticks_state (count : Nat) (i : Interpreter σ) : (ticks count i).state = i.ticked count := by
  induction count generalizing i with
  | zero => rfl
  | succ count ih => exact ih (tick i).state

/-- So many steps lead from one interpreter to another, and all of them succeed. -/
inductive Stepped [ByteSource σ] : Nat → Interpreter σ → Interpreter σ → Prop
  | none (i : Interpreter σ) : Stepped 0 i i
  | more {count : Nat} {i j : Interpreter σ} (hok : (step i).result = .ok ())
    (h : Stepped count (step i).state j) : Stepped (count + 1) i j

/-- Of up to `count` steps as many succeed as are said to. If there is a fault, it is that of the
    next one. -/
theorem steps_stepped [ByteSource σ] (count : Nat) (i : Interpreter σ) :
    ((steps count i).2.result = .ok () →
      Stepped (steps count i).1 i (steps count i).2.state) ∧
    ∀ fault, (steps count i).2.result = .error fault →
      ∃ j, Stepped (steps count i).1 i j ∧ (step j).result = .error fault ∧
        (steps count i).2.state = (step j).state := by
  induction count generalizing i with
  | zero => exact ⟨fun _ => .none i, nofun⟩
  | succ count ih =>
    rw [steps]
    cases hfirst : (step i).result with
    | error fault =>
      refine ⟨fun hok => ?_, fun other hother => ⟨i, .none i, ?_, rfl⟩⟩
      · cases hok
      · exact hfirst.trans hother
    | ok _ =>
      obtain ⟨hall, hsome⟩ := ih (step i).state
      refine ⟨fun hok => .more hfirst (hall hok), fun fault hfault => ?_⟩
      obtain ⟨j, hj, hfails, hstate⟩ := hsome fault hfault
      exact ⟨j, .more hfirst hj, hfails, hstate⟩

end Interpreter

/-- There is no tick and no step among these acts. -/
def Workless (acts : List Act) : Prop := acts.count .ticked = 0 ∧ acts.count .stepped = 0

/-- Nothing is ticked or stepped outside the work. -/
theorem workless_of_suits {phase : Phase} {acts : List Act} (h : ∀ act ∈ acts, act.Suits phase)
    (hne : phase ≠ .work) : Workless acts :=
  ⟨List.count_eq_zero.mpr fun hmem => (h _ hmem).phase_ne hne.symm rfl,
    List.count_eq_zero.mpr fun hmem => (h _ hmem).phase_ne hne.symm rfl⟩

namespace Session

open Cadence

variable {σ δ ι β : Type}

/-! ## Section 1: One stretch of work -/

/-- What a stretch of work does to the counts. -/
structure Worked (elapsed : Nat) (s : Session σ δ ι β) (turn : Turn (Session σ δ ι β) Unit) :
    Prop where
  /-- The counts agree with the journal. -/
  ticked : turn.state.counts.timer = s.counts.timer + turn.acts.count .ticked
  stepped : turn.state.counts.cpu = s.counts.cpu + turn.acts.count .stepped
  /-- Ticks cannot fail, so all are made. -/
  timer : turn.state.counts.timer = max s.counts.timer (target elapsed s.rates.timer)
  /-- Steps are made until none is due or one fails. -/
  cpu : turn.result = .ok () →
    turn.state.counts.cpu = max s.counts.cpu (target elapsed s.rates.cpu)
  short : turn.result ≠ .ok () → turn.state.counts.cpu < target elapsed s.rates.cpu

theorem work_worked [ByteSource σ] (elapsed : Nat) (s : Session σ δ ι β) :
    Worked elapsed s (work elapsed s) := by
  rw [work_eq]
  dsimp only
  generalize hdue : target elapsed s.rates.cpu - s.counts.cpu = due
  generalize hticks : Interpreter.ticks _ s.interpreter = ticks
  have hacts : ticks.acts =
      List.replicate (target elapsed s.rates.timer - s.counts.timer) .ticked := by
    rw [← hticks, Interpreter.ticks_acts]
  obtain ⟨hstepped, hentered, hcomplete⟩ := Interpreter.steps_progress due ticks.state
  generalize Interpreter.steps due ticks.state = steps at *
  -- each cadence enters its own acts
  have hticked : (ticks.acts ++ steps.2.acts).count .ticked =
      target elapsed s.rates.timer - s.counts.timer := by
    have hnone : steps.2.acts.count .ticked = 0 := by
      rw [List.count_eq_zero]
      intro hmem
      rcases hentered _ hmem with ⟨n, hn⟩ | hn <;> cases hn
    rw [List.count_append, hacts, List.count_replicate_self, hnone, Nat.add_zero]
  have hstepped : (ticks.acts ++ steps.2.acts).count .stepped = steps.1 := by
    have hnone : ticks.acts.count .stepped = 0 := by
      rw [hacts, List.count_replicate]
      rfl
    rw [List.count_append, hnone, hstepped, Nat.zero_add]
  constructor <;> simp only [hticked, hstepped]
  case ticked => omega
  case cpu =>
    intro hok
    rcases hcomplete with ⟨-, hall⟩ | ⟨⟨fault, hfault⟩, -⟩
    · omega
    · rw [hok] at hfault
      cases hfault
  case short =>
    intro hfailed
    rcases hcomplete with ⟨hok, -⟩ | ⟨-, hsome⟩
    · exact absurd hok hfailed
    · omega

/-- The events before the work make no difference to it. -/
theorem Worked.of_heard [ByteSource σ] [Input ι] [DiscreetInput ι] {now elapsed : Nat}
    {s s₁ s₂ : Session σ δ ι β} {told done : List Act} {flow : Except Fault Flow}
    {result : Except Fault Unit} (hheard : hear now s = ⟨s₁, flow, told⟩)
    (hworked : work elapsed s₁ = ⟨s₂, result, done⟩) :
    Worked elapsed s ⟨s₂, result, told ++ done⟩ := by
  have hrates : s₁.rates = s.rates := (keeps_hear rates (fun _ _ _ => rfl) now).eq hheard
  have hcounts : s₁.counts = s.counts := (keeps_hear counts (fun _ _ _ => rfl) now).eq hheard
  obtain ⟨hnoTick, hnoStep⟩ := workless_of_suits ((enters_hear now).mem hheard) (by decide)
  obtain ⟨hticked, hstepped, htimer, hcpu, hshort⟩ := hworked ▸ work_worked elapsed s₁
  rw [hcounts] at hticked hstepped htimer hcpu
  rw [hrates] at htimer hcpu hshort
  refine ⟨?_, ?_, htimer, hcpu, hshort⟩
  · rw [List.count_append, hnoTick, Nat.zero_add]
    exact hticked
  · rw [List.count_append, hnoStep, Nat.zero_add]
    exact hstepped

/-- Neither does what comes after it. -/
theorem Worked.append {elapsed : Nat} {s s₂ s₃ : Session σ δ ι β} {result : Except Fault Unit}
    {acts more : List Act} (h : Worked elapsed s ⟨s₂, result, acts⟩)
    (hcpu : s₃.counts.cpu = s₂.counts.cpu) (htimer : s₃.counts.timer = s₂.counts.timer)
    (hmore : Workless more) : Worked elapsed s ⟨s₃, result, acts ++ more⟩ := by
  obtain ⟨hnoTick, hnoStep⟩ := hmore
  constructor <;> simp only [hcpu, htimer, List.count_append, hnoTick, hnoStep, Nat.add_zero]
  case ticked => exact h.ticked
  case stepped => exact h.stepped
  case timer => exact h.timer
  case cpu => exact h.cpu
  case short => exact h.short

/-- Drawing is of no account, whether it succeeds or not. -/
theorem Worked.drawn [Display δ] [DiscreetDisplay δ] {elapsed due : Nat}
    {s s₂ s₃ : Session σ δ ι β} {result shownResult : Except Fault Unit} {acts shown : List Act}
    (h : Worked elapsed s ⟨s₂, result, acts⟩)
    (hdrawn : drawUpTo due s₂ = ⟨s₃, shownResult, shown⟩) :
    Worked elapsed s ⟨s₃, result, acts ++ shown⟩ :=
  h.append ((keeps_drawUpTo (·.counts.cpu) (fun _ _ _ => rfl) due).eq hdrawn)
    ((keeps_drawUpTo (·.counts.timer) (fun _ _ _ => rfl) due).eq hdrawn)
    (workless_of_suits ((enters_drawUpTo due).mem hdrawn) (by decide))

/-- The interpreter goes along with the counts. -/
theorem work_driven [ByteSource σ] (elapsed : Nat) (s : Session σ δ ι β) :
    let turn := work elapsed s
    let start := s.interpreter.ticked (turn.state.counts.timer - s.counts.timer)
    let steps := turn.state.counts.cpu - s.counts.cpu
    (turn.result = .ok () → Interpreter.Stepped steps start turn.state.interpreter) ∧
    ∀ fault, turn.result = .error fault →
      ∃ i, Interpreter.Stepped steps start i ∧ (Interpreter.step i).result = .error fault ∧
        turn.state.interpreter = (Interpreter.step i).state := by
  rw [work_eq]
  dsimp only
  have htimer : ∀ due, max s.counts.timer due - s.counts.timer = due - s.counts.timer := by omega
  rw [htimer, Nat.add_sub_cancel_left, ← Interpreter.ticks_state]
  exact Interpreter.steps_stepped _ _

/-! ## Section 2: One advance -/

/-- What an advance that gets to `phase` and no further does to the counts. -/
structure Accounted (elapsed : Nat) (s : Session σ δ ι β) (phase : Phase)
    (turn : Turn (Session σ δ ι β) Flow) : Prop where
  ticked : turn.state.counts.timer = s.counts.timer + turn.acts.count .ticked
  stepped : turn.state.counts.cpu = s.counts.cpu + turn.acts.count .stepped
  /-- For the sake of an advance that stops at the events nothing is done. -/
  stopped : phase = .events → turn.state.counts = s.counts
  timer : phase ≠ .events →
    turn.state.counts.timer = max s.counts.timer (target elapsed s.rates.timer)
  /-- After a step that failed nothing is drawn and nothing is heard. -/
  stepFailed : phase = .work →
    turn.state.counts.cpu < target elapsed s.rates.cpu ∧
      turn.state.display = s.display ∧ turn.state.buzzer = s.buzzer ∧
      ∀ act ∈ turn.acts, act.phase? ≠ some .frame ∧ act.phase? ≠ some .buzzer
  cpu : phase = .frame ∨ phase = .buzzer →
    turn.state.counts.cpu = max s.counts.cpu (target elapsed s.rates.cpu)
  /-- Only an advance that gets to the end carries on. -/
  finished : turn.result = .ok .carryOn ↔ phase = .buzzer

/-- What an advance that gets to `phase` and no further does to the interpreter. -/
inductive Driven [ByteSource σ] [Input ι] (now : Nat) (s : Session σ δ ι β) :
    Phase → Turn (Session σ δ ι β) Flow → Prop
  /-- An advance that stops at the events makes nothing of it but what they do. -/
  | heard {turn} (h : turn = hear now s) : Driven now s .events turn
  /-- Otherwise it counts down as often as was counted, then makes as many steps as were counted,
      and one more if that fails. -/
  | failed {turn i fault}
      (hstepped : Interpreter.Stepped (turn.state.counts.cpu - s.counts.cpu)
        ((hear now s).state.interpreter.ticked (turn.state.counts.timer - s.counts.timer)) i)
      (hfails : (Interpreter.step i).result = .error fault)
      (hresult : turn.result = .error fault)
      (hstate : turn.state.interpreter = (Interpreter.step i).state) :
    Driven now s .work turn
  | caughtUp {phase turn} (hphase : phase = .frame ∨ phase = .buzzer)
      (hstepped : Interpreter.Stepped (turn.state.counts.cpu - s.counts.cpu)
        ((hear now s).state.interpreter.ticked (turn.state.counts.timer - s.counts.timer))
        turn.state.interpreter) :
    Driven now s phase turn

/-- Work that is done drives the interpreter, and what comes after it leaves it alone. -/
theorem Driven.of_work [ByteSource σ] [Input ι] {now elapsed : Nat} {s s₁ s₂ s₃ : Session σ δ ι β}
    {told done acts : List Act} (hheard : hear now s = ⟨s₁, .ok .carryOn, told⟩)
    (hworked : work elapsed s₁ = ⟨s₂, .ok (), done⟩)
    (hprogress : s₃.progress = s₂.progress) {phase : Phase}
    (hphase : phase = .frame ∨ phase = .buzzer) {flow : Except Fault Flow} :
    Driven now s phase ⟨s₃, flow, acts⟩ := by
  have hcounts : s₁.counts = s.counts := (keeps_hear counts (fun _ _ _ => rfl) now).eq hheard
  obtain ⟨hinterpreter, hdone⟩ := Prod.mk.inj hprogress
  obtain ⟨htimer, hcpu⟩ := Prod.mk.inj hdone
  obtain ⟨hstepped, -⟩ := work_driven elapsed s₁
  rw [hworked, hcounts] at hstepped
  refine .caughtUp hphase ?_
  rw [hinterpreter, hcpu, htimer, hheard]
  exact hstepped rfl

theorem Course.driven [ByteSource σ] [Display δ] [Input ι] [Buzzer β] {now elapsed : Nat}
    {s : Session σ δ ι β} {phase : Phase} {turn : Turn (Session σ δ ι β) Flow}
    (h : Course now elapsed s phase turn) : Driven now s phase turn := by
  cases h with
  | stopped => exact .heard rfl
  | @stepFailed s₁ s₂ told done fault hheard hworked =>
    have hcounts : s₁.counts = s.counts := (keeps_hear counts (fun _ _ _ => rfl) now).eq hheard
    obtain ⟨-, hfailed⟩ := work_driven elapsed s₁
    rw [hworked, hcounts] at hfailed
    obtain ⟨i, hstepped, hfails, hstate⟩ := hfailed fault rfl
    refine .failed ?_ hfails rfl hstate
    rw [hheard]
    exact hstepped
  | drawRefused hheard hworked hdrawn =>
    have hshown := (keeps_drawUpTo progress (fun _ _ _ => rfl) _).eq hdrawn
    exact .of_work hheard hworked hshown (.inl rfl)
  | finished hheard hworked hdrawn hmatched =>
    have hshown := (keeps_drawUpTo progress (fun _ _ _ => rfl) _).eq hdrawn
    have hsounded := (keeps_matchBuzzer progress fun _ _ => rfl).eq hmatched
    exact .of_work hheard hworked (hsounded.trans hshown) (.inr rfl)

/-- An advance whose work is done. -/
theorem Worked.accounted {elapsed : Nat} {s s' : Session σ δ ι β} {acts : List Act}
    (h : Worked elapsed s ⟨s', .ok (), acts⟩) {phase : Phase}
    (hphase : phase = .frame ∨ phase = .buzzer) {flow : Except Fault Flow}
    (hflow : flow = .ok .carryOn ↔ phase = .buzzer) :
    Accounted elapsed s phase ⟨s', flow, acts⟩ where
  ticked := h.ticked
  stepped := h.stepped
  stopped := by rintro rfl; simp at hphase
  timer _ := h.timer
  stepFailed := by rintro rfl; simp at hphase
  cpu _ := h.cpu rfl
  finished := hflow

section

variable [ByteSource σ] [Display δ] [Input ι] [Buzzer β]
  [DiscreetDisplay δ] [DiscreetInput ι] [DiscreetBuzzer β]

theorem Course.accounted {now elapsed : Nat} {s : Session σ δ ι β} {phase : Phase}
    {turn : Turn (Session σ δ ι β) Flow} (h : Course now elapsed s phase turn) :
    Accounted elapsed s phase turn := by
  cases h with
  | stopped hstop =>
    -- no phase but the events has taken place
    have hcounts := keeps_hear counts (fun _ _ _ => rfl) now s
    obtain ⟨hnoTick, hnoStep⟩ := workless_of_suits (enters_hear now s) (by decide)
    constructor
    case finished => simp [hstop]
    all_goals simp [hcounts, hnoTick, hnoStep]
  | @stepFailed s₁ s₂ told done fault hheard hworked =>
    have hwork := Worked.of_heard hheard hworked
    have hdisplay : s₂.display = s.display :=
      ((keeps_work display (fun _ _ _ _ => rfl) elapsed).eq hworked).trans
        ((keeps_hear display (fun _ _ _ => rfl) now).eq hheard)
    have hbuzzer : s₂.buzzer = s.buzzer :=
      ((keeps_work buzzer (fun _ _ _ _ => rfl) elapsed).eq hworked).trans
        ((keeps_hear buzzer (fun _ _ _ => rfl) now).eq hheard)
    have hacts : ∀ act ∈ told ++ done,
        act.phase? ≠ some .frame ∧ act.phase? ≠ some .buzzer := by
      rw [List.forall_mem_append]
      constructor
      · intro act hact
        have hsuits := (enters_hear now).mem hheard act hact
        exact ⟨hsuits.phase_ne nofun, hsuits.phase_ne nofun⟩
      · intro act hact
        have hsuits := (enters_work elapsed).mem hworked act hact
        exact ⟨hsuits.phase_ne nofun, hsuits.phase_ne nofun⟩
    exact {
      ticked := hwork.ticked
      stepped := hwork.stepped
      stopped := nofun
      timer := fun _ => hwork.timer
      stepFailed := fun _ => ⟨hwork.short nofun, hdisplay, hbuzzer, hacts⟩
      cpu := by simp
      finished := by simp }
  | drawRefused hheard hworked hdrawn =>
    have hdraw := (Worked.of_heard hheard hworked).drawn hdrawn
    rw [← List.append_assoc]
    exact hdraw.accounted (.inl rfl) (by simp)
  | finished hheard hworked hdrawn hmatched =>
    have hdraw := (Worked.of_heard hheard hworked).drawn hdrawn
    have hbuzz := hdraw.append
      ((keeps_matchBuzzer (·.counts.cpu) fun _ _ => rfl).eq hmatched)
      ((keeps_matchBuzzer (·.counts.timer) fun _ _ => rfl).eq hmatched)
      (workless_of_suits (enters_matchBuzzer.mem hmatched) (by decide))
    rw [← List.append_assoc, ← List.append_assoc]
    exact hbuzz.accounted (.inr rfl) (by simp)

/-! ## Section 3: Schedules -/

/-- The last phases of the advances of a schedule. -/
def phases : List (Nat × Nat) → Session σ δ ι β → List Phase
  | [], _ => []
  | (now, elapsed) :: later, s =>
    reached now elapsed s :: phases later (advance now elapsed s).state

/-- The times at those advances of a schedule that get past the events. -/
def heard : List (Nat × Nat) → Session σ δ ι β → List Nat
  | [], _ => []
  | (now, elapsed) :: later, s =>
    let rest := heard later (advance now elapsed s).state
    if reached now elapsed s = .events then rest else elapsed :: rest

/-- The counts are what the journal says, as long as they were so before. -/
theorem counted_after (schedule : List (Nat × Nat)) (s : Session σ δ ι β) :
    let acts := (advances schedule s).flatMap Turn.acts
    (after schedule s).counts.timer = s.counts.timer + acts.count .ticked ∧
      (after schedule s).counts.cpu = s.counts.cpu + acts.count .stepped := by
  induction schedule generalizing s with
  | nil => exact ⟨rfl, rfl⟩
  | cons time later ih =>
    obtain ⟨now, elapsed⟩ := time
    have hadvance := (advance_course now elapsed s).accounted
    obtain ⟨htimer, hcpu⟩ := ih (advance now elapsed s).state
    rw [hadvance.ticked] at htimer
    rw [hadvance.stepped] at hcpu
    simp only [advances, after, List.flatMap_cons, List.count_append, ← Nat.add_assoc]
    exact ⟨htimer, hcpu⟩

/-- A count that is brought up to its target by every advance of certain phases, and by others not
    at all, comes to the largest of the targets along a schedule that has no more phases than these
    and the events. -/
theorem count_after (rate : Rates → UInt32) (count : Counts → Nat) (served : Phase → Prop)
    (hserved : ∀ now elapsed (s : Session σ δ ι β), served (reached now elapsed s) →
      count (advance now elapsed s).state.counts =
        max (count s.counts) (target elapsed (rate s.rates)))
    (schedule : List (Nat × Nat)) (s : Session σ δ ι β)
    (h : ∀ phase ∈ phases schedule s, phase ≠ .events → served phase) :
    count (after schedule s).counts =
      ((heard schedule s).map (target · (rate s.rates))).foldl max (count s.counts) := by
  induction schedule generalizing s with
  | nil => rfl
  | cons time later ih =>
    obtain ⟨now, elapsed⟩ := time
    rw [phases, List.forall_mem_cons] at h
    -- the rates of the rest are the same, and it begins with the count that this advance leaves
    have hlater := ih (advance now elapsed s).state h.2
    rw [keeps_advance now elapsed s] at hlater
    by_cases hreached : reached now elapsed s = .events
    · rw [(advance_course now elapsed s).accounted.stopped hreached] at hlater
      simp only [heard, hreached, if_true]
      exact hlater
    · rw [hserved now elapsed s (h.1 hreached)] at hlater
      simp only [heard, hreached, if_false, List.map_cons, List.foldl_cons]
      exact hlater

/-- As many ticks are made as the largest of the targets asks for. -/
theorem timer_after (schedule : List (Nat × Nat)) (s : Session σ δ ι β) :
    (after schedule s).counts.timer =
      ((heard schedule s).map (target · s.rates.timer)).foldl max s.counts.timer :=
  count_after Rates.timer Counts.timer (· ≠ .events)
    (fun now elapsed s => (advance_course now elapsed s).accounted.timer) schedule s
    fun _ _ hphase => hphase

/-- As long as no step fails, the same is true of the steps. -/
theorem cpu_after (schedule : List (Nat × Nat)) (s : Session σ δ ι β)
    (h : .work ∉ phases schedule s) :
    (after schedule s).counts.cpu =
      ((heard schedule s).map (target · s.rates.cpu)).foldl max s.counts.cpu := by
  refine count_after Rates.cpu Counts.cpu (fun phase => phase = .frame ∨ phase = .buzzer)
    (fun now elapsed s => (advance_course now elapsed s).accounted.cpu) schedule s ?_
  intro phase hphase hevents
  exact Phase.past_work_iff.mpr ⟨hevents, ne_of_mem_of_not_mem hphase h⟩

/-! ## Section 4: The main result -/

/-- No tick and no step is lost or made twice, whatever the schedule and whatever fails. In a new
    session the counts agree with the journal at any time. As many ticks have been made as the
    largest target asked for, of those advances that got past their events. An advance that stops at
    the events counts nothing; one whose step fails stops short of its target, and neither draws nor
    touches the buzzer; any other brings the steps up to its target, if they were not past it. The
    interpreter goes along: in each advance it counts down and makes steps as often as the counts go
    up, and but for its events that is all. So as long as no step has failed, the steps too are as
    many as the largest target asked for. -/
theorem no_update_lost_or_repeated (interpreter : Interpreter σ) (display : δ) (input : ι)
    (buzzer : β) (rates : Rates) (schedule : List (Nat × Nat)) :
    let s : Session σ δ ι β := { interpreter, display, input, buzzer, rates }
    let acts := (advances schedule s).flatMap Turn.acts
    let last := after schedule s
    last.counts.timer = acts.count .ticked ∧
    last.counts.cpu = acts.count .stepped ∧
    last.counts.timer = ((heard schedule s).map (target · rates.timer)).foldl max 0 ∧
    (∀ now elapsed,
      let turn := advance now elapsed last
      let phase := reached now elapsed last
      (turn.result = .ok .carryOn ↔ phase = .buzzer) ∧
      Driven now last phase turn ∧
      (phase = .events → turn.state.counts = last.counts) ∧
      (phase = .work →
        turn.state.counts.cpu = last.counts.cpu + turn.acts.count .stepped ∧
        turn.state.counts.cpu < target elapsed rates.cpu ∧
        turn.state.display = last.display ∧ turn.state.buzzer = last.buzzer ∧
        ∀ act ∈ turn.acts, act.phase? ≠ some .frame ∧ act.phase? ≠ some .buzzer) ∧
      (phase = .frame ∨ phase = .buzzer →
        turn.state.counts.cpu = max last.counts.cpu (target elapsed rates.cpu))) ∧
    (.work ∉ phases schedule s →
      last.counts.cpu = ((heard schedule s).map (target · rates.cpu)).foldl max 0) := by
  intro s acts last
  have hrates : last.rates = rates := rates_after schedule s
  obtain ⟨hticked, hstepped⟩ := counted_after schedule s
  refine ⟨hticked.trans (Nat.zero_add _), hstepped.trans (Nat.zero_add _), timer_after schedule s,
    fun now elapsed => ?_, cpu_after schedule s⟩
  have hadvance := (advance_course now elapsed last).accounted
  have hdriven := (advance_course now elapsed last).driven
  refine ⟨hadvance.finished, hdriven, hadvance.stopped, fun hwork => ?_,
    fun hpast => hrates ▸ hadvance.cpu hpast⟩
  obtain ⟨hshort, hdisplay, hbuzzer, hacts⟩ := hadvance.stepFailed hwork
  exact ⟨hadvance.stepped, hrates ▸ hshort, hdisplay, hbuzzer, hacts⟩

end

/-- A session in which everything fails once: the first frame, the second poll, the first change of
    the buzzer, and, once a key has come with the fourth poll, the first instruction. -/
def troubled : Session Stride (Unreliable FrameKeeper) (Unreliable Script) (Unreliable Mute) where
  interpreter := ⟨{ Machine.fresh with mode := .awaitingKey 3, sound := 9 }, ⟨1, 0⟩⟩
  display := { device := {}, refusal := "no frame", failing := [0] }
  input := { device := ⟨[[], [], [], [.down 7]]⟩, refusal := "no keys", failing := [1] }
  buzzer := { device := {}, refusal := "no sound", failing := [0] }
  rates := {}

/-- Fifty milliseconds, a hundred that the session does not hear of, and back to twenty. -/
def troubledTimes : List (Nat × Nat) := [(0, 50000000), (0, 100000000), (0, 20000000)]

/-- Three ticks and 25 steps were due at the most, and they are made. The next advance, to seventy
    milliseconds, fails before it has made the 35 steps that are due by then. -/
theorem troubled_counts :
    phases troubledTimes troubled = [.frame, .events, .buzzer] ∧
    (after troubledTimes troubled).counts.timer = 3 ∧
    (after troubledTimes troubled).counts.cpu = 25 ∧
    reached 0 70000000 (after troubledTimes troubled) = .work ∧
    (advance 0 70000000 (after troubledTimes troubled)).state.counts.cpu < 35 := by
  have hphases : phases troubledTimes troubled = [.frame, .events, .buzzer] := by decide +kernel
  have hheard : heard troubledTimes troubled = [50000000, 20000000] := by decide +kernel
  have hfailed : reached 0 70000000 (after troubledTimes troubled) = .work := by decide +kernel
  have hmain := no_update_lost_or_repeated troubled.interpreter troubled.display troubled.input
    troubled.buzzer troubled.rates troubledTimes
  have heta : (⟨troubled.interpreter, troubled.display, troubled.input, troubled.buzzer,
    troubled.rates, {}⟩ : Session _ _ _ _) = troubled := rfl
  dsimp only at hmain
  rw [heta, hphases, hheard] at hmain
  obtain ⟨-, -, htimer, hnext, hcpu⟩ := hmain
  obtain ⟨-, -, -, hstepFailed, -⟩ := hnext 0 70000000
  obtain ⟨-, hshort, -⟩ := hstepFailed hfailed
  exact ⟨hphases, htimer.trans (by decide), (hcpu (by decide)).trans (by decide), hfailed, hshort⟩

end Session

end Chip8
