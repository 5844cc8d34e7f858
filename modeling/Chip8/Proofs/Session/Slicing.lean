import Chip8.Proofs.Cadence
import Chip8.Proofs.Interpreter.Timers
import Chip8.Proofs.Session.Phase
import Mathlib.Control.Monad.Basic

/-! # It does not matter how the time is sliced

    A session catches up with the time in as many advances as it is given. Each makes the ticks that
    are due first and the steps second, so how ticks and steps alternate depends on the slices. But
    they pass each other, as long as no instruction touches a timer, and how many there are to be
    follows from the time alone. So what a session comes to depends on the latest time only.

    The session is followed from advance to advance: `Settled` says that it is at what all steps and
    then all ticks up to the latest time make of the interpreter it began with. -/

namespace Chip8

/-! ## Section 1: Devices that do not interfere -/

/-- The input has nothing to tell, at whatever times it is asked. -/
def Quiet {ι : Type} [Input ι] (input : ι) : Prop :=
  ∀ (times : List Nat) (now : Nat),
    (Input.poll now (times.foldl (fun i now => (Input.poll now i).state) input)).result = .ok []

/-- The display shows whatever it is given. -/
def Obliging {δ : Type} [Display δ] (display : δ) : Prop :=
  ∀ (pictures : List Picture) (picture : Picture),
    (Display.draw picture
      (pictures.foldl (fun d picture => (Display.draw picture d).state) display)).result = .ok ()

theorem Quiet.poll {ι : Type} [Input ι] {input : ι} (h : Quiet input) (now : Nat) :
    (Input.poll now input).result = .ok [] ∧ Quiet (Input.poll now input).state :=
  ⟨h [] now, fun times => h (now :: times)⟩

theorem Obliging.draw {δ : Type} [Display δ] {display : δ} (h : Obliging display)
    (picture : Picture) :
    (Display.draw picture display).result = .ok () ∧
      Obliging (Display.draw picture display).state :=
  ⟨h [] picture, fun pictures => h (picture :: pictures)⟩

namespace Session

open Interpreter (steps ticks instructions)

variable {σ δ ι β : Type}

/-- Neither the input nor the display interferes. -/
structure Undisturbed [Display δ] [Input ι] (s : Session σ δ ι β) : Prop where
  quiet : Quiet s.input
  obliging : Obliging s.display

/-! ## Section 2: One advance -/

/-- An input that has nothing to tell lets the advance go on. -/
theorem hear_of_quiet [Input ι] {s : Session σ δ ι β} (h : Quiet s.input) (now : Nat) :
    (hear now s).result = .ok .carryOn ∧
      (hear now s).state = { s with input := (Input.poll now s.input).state } := by
  rw [hear_of_ok (h.poll now).1]
  exact ⟨rfl, rfl⟩

theorem drawUpTo_of_obliging [Display δ] {s : Session σ δ ι β} (h : Obliging s.display)
    (target : Nat) :
    (drawUpTo target s).result = .ok () ∧ Obliging (drawUpTo target s).state.display ∧
      (drawUpTo target s).state.counts = { s.counts with frame := max s.counts.frame target } := by
  obtain ⟨hresult, hobliging⟩ := h.draw s.interpreter.machine.picture
  by_cases hlate : s.counts.frame < target
  · simp only [drawUpTo, if_pos hlate, hresult]
    rw [Nat.max_eq_right (Nat.le_of_lt hlate)]
    exact ⟨trivial, hobliging, rfl⟩
  · simp only [drawUpTo, if_neg hlate]
    rw [Nat.max_eq_left (Nat.not_lt.mp hlate)]
    exact ⟨trivial, h, rfl⟩

variable [ByteSource σ]

/-- Work after an input that has nothing to tell is work all the same. -/
theorem work_of_quiet [Input ι] {now elapsed : Nat} {s s₁ s₂ : Session σ δ ι β}
    {told done : List Act} {flow : Except Fault Flow} {result : Except Fault Unit}
    (h : Quiet s.input) (hheard : hear now s = ⟨s₁, flow, told⟩)
    (hworked : work elapsed s₁ = ⟨s₂, result, done⟩) :
    (work elapsed s).result = result ∧
      ∃ input, Quiet input ∧ s₂ = { (work elapsed s).state with input } := by
  have hstate := (hear_of_quiet h now).2
  rw [hheard] at hstate
  dsimp only at hstate
  rw [hstate, work_eq] at hworked
  rw [work_eq]
  obtain ⟨rfl, rfl, -⟩ := Turn.mk.inj hworked
  exact ⟨rfl, _, (h.poll now).2, rfl⟩

/-- Work, in terms of what is due. -/
theorem work_due (elapsed : Nat) (s : Session σ δ ι β) :
    let due := s.rates.due elapsed
    let ticked := (ticks (due.timer - s.counts.timer) s.interpreter).state
    let stepped := steps (due.cpu - s.counts.cpu) ticked
    (work elapsed s).result = stepped.2.result ∧
      (work elapsed s).state.counts.cpu = s.counts.cpu + stepped.1 ∧
      (work elapsed s).state.counts.timer = max s.counts.timer due.timer ∧
      (work elapsed s).state.interpreter = stepped.2.state := by
  rw [work_eq]
  exact ⟨rfl, rfl, rfl, rfl⟩

variable [Display δ] [Input ι]

/-- An advance of a session that is not disturbed ends as its work does. If that goes well the
    frames are up to date too. -/
structure WorksOut (elapsed : Nat) (s : Session σ δ ι β) (turn : Turn (Session σ δ ι β) Flow) :
    Prop where
  interpreter : turn.state.interpreter = (work elapsed s).state.interpreter
  cpu : turn.state.counts.cpu = (work elapsed s).state.counts.cpu
  error : ∀ fault, (work elapsed s).result = .error fault → turn.result = .error fault
  ok : (work elapsed s).result = .ok () →
    turn.result = .ok .carryOn ∧ Undisturbed turn.state ∧
      turn.state.counts = {
        cpu := (work elapsed s).state.counts.cpu
        timer := (work elapsed s).state.counts.timer
        frame := max s.counts.frame (Cadence.target elapsed s.rates.frame) }

variable [Buzzer β]

theorem Course.worksOut {now elapsed : Nat} {s : Session σ δ ι β} {phase : Phase}
    {turn : Turn (Session σ δ ι β) Flow} (h : Course now elapsed s phase turn)
    (hs : Undisturbed s) : WorksOut elapsed s turn := by
  have hdisplay := keeps_work display (fun _ _ _ _ => rfl) elapsed s
  have hobliging : Obliging (work elapsed s).state.display := hdisplay ▸ hs.obliging
  let due := Cadence.target elapsed s.rates.frame
  cases h with
  | stopped hstop => exact absurd (hear_of_quiet hs.quiet now).1 hstop
  | stepFailed hheard hworked =>
    obtain ⟨hresult, input, -, rfl⟩ := work_of_quiet hs.quiet hheard hworked
    refine ⟨rfl, rfl, fun other hother => ?_, fun hok => ?_⟩
    · rw [hresult] at hother
      exact congrArg Except.error (Except.error.inj hother)
    · cases hresult.symm.trans hok
  | drawRefused hheard hworked hdrawn =>
    obtain ⟨-, input, -, rfl⟩ := work_of_quiet hs.quiet hheard hworked
    -- no frame is refused
    have hdraw := drawUpTo_of_obliging (s := { (work elapsed s).state with input }) hobliging due
    rw [hdrawn] at hdraw
    cases hdraw.1
  | @finished s₁ s₂ s₃ s₄ told done shown sounded hheard hworked hdrawn hmatched =>
    obtain ⟨hresult, input, hquiet, rfl⟩ := work_of_quiet hs.quiet hheard hworked
    have hdraw := drawUpTo_of_obliging (s := { (work elapsed s).state with input }) hobliging due
    rw [hdrawn] at hdraw
    obtain ⟨-, hshown, hcounts⟩ := hdraw
    have hframe : (work elapsed s).state.counts.frame = s.counts.frame :=
      keeps_work (·.counts.frame) (fun _ _ _ _ => rfl) elapsed s
    have hinterpreter : s₄.interpreter = (work elapsed s).state.interpreter :=
      ((keeps_matchBuzzer interpreter fun _ _ => rfl).eq hmatched).trans
        ((keeps_drawUpTo interpreter (fun _ _ _ => rfl) due).eq hdrawn)
    have hinput : s₄.input = input :=
      ((keeps_matchBuzzer Session.input fun _ _ => rfl).eq hmatched).trans
        ((keeps_drawUpTo Session.input (fun _ _ _ => rfl) due).eq hdrawn)
    have hdisplay : s₄.display = s₃.display :=
      (keeps_matchBuzzer display fun _ _ => rfl).eq hmatched
    have hcounts : s₄.counts = {
        cpu := (work elapsed s).state.counts.cpu
        timer := (work elapsed s).state.counts.timer
        frame := max s.counts.frame due } := by
      rw [← hframe]
      exact ((keeps_matchBuzzer counts fun _ _ => rfl).eq hmatched).trans hcounts
    refine ⟨hinterpreter, by simp only [hcounts], fun fault hfault => ?_, fun _ => ?_⟩
    · cases hresult.symm.trans hfault
    · exact ⟨rfl, ⟨hinput ▸ hquiet, hdisplay ▸ hshown⟩, hcounts⟩

/-! ## Section 3: Schedules -/

/-- The session has carried on up to `latest`: it has made all steps and all ticks due by then. -/
structure Settled (i : Interpreter σ) (rates : Rates) (latest : Nat) (s : Session σ δ ι β) :
    Prop where
  rates_eq : s.rates = rates
  undisturbed : Undisturbed s
  counts_eq : s.counts = rates.due latest
  /-- None of the steps has failed. -/
  stepped : (steps (rates.due latest).cpu i).2.result = .ok ()
  interpreter_eq : s.interpreter =
    (ticks (rates.due latest).timer (steps (rates.due latest).cpu i).2.state).state

omit [Buzzer β] in
/-- Work brings a session from what was due to what is due. -/
theorem Settled.work {i : Interpreter σ} {rates : Rates} {latest elapsed : Nat}
    {s : Session σ δ ι β} (h : Settled i rates latest s) (hfit : rates.Fit (max latest elapsed))
    (hspares : ∀ op ∈ instructions (rates.due (max latest elapsed)).cpu i,
      op.sparesTimers = true) :
    let due := rates.due (max latest elapsed)
    let stepped := steps due.cpu i
    let worked := Session.work elapsed s
    worked.result = stepped.2.result ∧ worked.state.counts.cpu = stepped.1 ∧
      worked.state.counts.timer = due.timer ∧
      worked.state.interpreter = (ticks due.timer stepped.2.state).state := by
  intro due
  let earlier := steps (rates.due latest).cpu i
  let more := (rates.due elapsed).cpu - (rates.due latest).cpu
  have hcpu : due.cpu = (rates.due latest).cpu + more := by
    simp only [due, more, Rates.due_max hfit]
    omega
  have htimer : due.timer =
      (rates.due latest).timer + ((rates.due elapsed).timer - (rates.due latest).timer) := by
    simp only [due, Rates.due_max hfit]
    omega
  -- the ticks of this stretch and those before it are ticks in a row
  have hticked : (ticks ((rates.due elapsed).timer - (rates.due latest).timer)
      s.interpreter).state = (ticks due.timer earlier.2.state).state := by
    rw [h.interpreter_eq, htimer, Interpreter.ticks_add]
  -- its steps follow those before it, and are put off until after all ticks
  obtain ⟨hinstructions, hsucceeded, hresult, hstate⟩ := Interpreter.steps_add h.stepped more
  rw [← hcpu] at hinstructions hsucceeded hresult hstate
  have hlater : ∀ op ∈ instructions more earlier.2.state, op.sparesTimers = true := by
    intro op hop
    apply hspares
    rw [hinstructions]
    exact List.mem_append_right _ hop
  obtain ⟨hsucceeded', hresult', hstate'⟩ := Interpreter.steps_ticks due.timer hlater
  obtain ⟨hworkResult, hworkCpu, hworkTimer, hworkInterpreter⟩ := work_due elapsed s
  rw [h.rates_eq, h.counts_eq, hticked] at hworkResult hworkCpu hworkInterpreter
  rw [h.rates_eq, h.counts_eq] at hworkTimer
  refine ⟨?_, ?_, ?_, ?_⟩
  · rw [hresult, ← hresult', hworkResult]
  · rw [hsucceeded, ← hsucceeded', hworkCpu]
  · rw [hworkTimer]
    omega
  · rw [hstate, ← hstate', hworkInterpreter]

/-- The session that an advance leaves if the steps that are due would fail. -/
structure Failed (i : Interpreter σ) (fault : Fault) (due : Nat)
    (turn : Turn (Session σ δ ι β) Flow) : Prop where
  result : turn.result = .error fault
  /-- It has stopped at the step that fails, -/
  cpu : turn.state.counts.cpu = (steps due i).1
  /-- and at what the step leaves, but for the ticks. -/
  interpreter : ∃ t, turn.state.interpreter = (ticks t (steps due i).2.state).state

theorem Settled.advance {i : Interpreter σ} {rates : Rates} {latest elapsed : Nat}
    {s : Session σ δ ι β} (h : Settled i rates latest s) (hfit : rates.Fit (max latest elapsed))
    (hspares : ∀ op ∈ instructions (rates.due (max latest elapsed)).cpu i,
      op.sparesTimers = true) (now : Nat) :
    let stepped := steps (rates.due (max latest elapsed)).cpu i
    let turn := Session.advance now elapsed s
    (stepped.2.result = .ok () →
      turn.result = .ok .carryOn ∧ Settled i rates (max latest elapsed) turn.state) ∧
    ∀ fault, stepped.2.result = .error fault →
      Failed i fault (rates.due (max latest elapsed)).cpu turn := by
  intro stepped turn
  obtain ⟨hresult, hcpu, htimer, hinterpreter⟩ := h.work hfit hspares
  have hout : WorksOut elapsed s turn := (advance_course now elapsed s).worksOut h.undisturbed
  have hturn : turn.state.interpreter =
      (ticks (rates.due (max latest elapsed)).timer stepped.2.state).state :=
    hout.interpreter.trans hinterpreter
  refine ⟨fun hok => ?_, fun fault hfault => ?_⟩
  · obtain ⟨hcarryOn, hundisturbed, hcounts⟩ := hout.ok (hresult.trans hok)
    have hall : stepped.1 = (rates.due (max latest elapsed)).cpu := by
      rcases (Interpreter.steps_progress _ i).complete with ⟨-, hall⟩ | ⟨⟨fault, hfault⟩, -⟩
      · exact hall
      · cases hok.symm.trans hfault
    have hframe : max s.counts.frame (Cadence.target elapsed s.rates.frame) =
        (rates.due (max latest elapsed)).frame := by
      rw [Rates.due_max hfit, h.counts_eq, h.rates_eq]
      rfl
    refine ⟨hcarryOn, ?_, hundisturbed, ?_, hok, hturn⟩
    · exact (keeps_advance now elapsed s).trans h.rates_eq
    · rw [hcounts, hframe, htimer, hcpu.trans hall]
  · exact ⟨hout.error fault (hresult.trans hfault), hout.cpu.trans hcpu, _, hturn⟩

/-- A session that is driven settles at the latest of all times, unless one of the steps that are
    due by then fails. -/
theorem Settled.drive {i : Interpreter σ} {rates : Rates} {latest last : Nat}
    {s : Session σ δ ι β} (h : Settled i rates latest s) {schedule : List (Nat × Nat)}
    (hbound : latest ≤ last ∧ ∀ time ∈ schedule, time.2 ≤ last)
    (hlast : latest = last ∨ ∃ time ∈ schedule, time.2 = last) (hfit : rates.Fit last)
    (hspares : ∀ op ∈ instructions (rates.due last).cpu i, op.sparesTimers = true) :
    (Session.drive schedule s).result = .ok .carryOn ∧
        Settled i rates last (Session.drive schedule s).state ∨
      ∃ fault, (steps (rates.due last).cpu i).2.result = .error fault ∧
        Failed i fault (rates.due last).cpu (Session.drive schedule s) := by
  induction schedule generalizing latest s with
  | nil =>
    obtain rfl : latest = last := by simpa using hlast
    exact .inl ⟨rfl, h⟩
  | cons time later ih =>
    obtain ⟨now, elapsed⟩ := time
    obtain ⟨hlatest, hbound⟩ := hbound
    rw [List.forall_mem_cons] at hbound
    obtain ⟨helapsed, hlater⟩ := hbound
    have hnext : max latest elapsed ≤ last := Nat.max_le.mpr ⟨hlatest, helapsed⟩
    obtain ⟨more, hmore⟩ : ∃ more, (rates.due last).cpu =
        (rates.due (max latest elapsed)).cpu + more :=
      Nat.exists_eq_add_of_le (Cadence.target_le hfit.cpu hnext)
    have hfirst : ∀ op ∈ instructions (rates.due (max latest elapsed)).cpu i,
        op.sparesTimers = true := by
      intro op hop
      apply hspares
      rw [hmore]
      exact (Interpreter.instructions_prefix _ more i).subset hop
    obtain ⟨hok, herror⟩ := h.advance (hfit.of_le hnext) hfirst now
    cases hstepped : (steps (rates.due (max latest elapsed)).cpu i).2.result with
    | ok _ =>
      obtain ⟨hcarryOn, hsettled⟩ := hok hstepped
      obtain ⟨hresult, hstate⟩ := drive_of_carryOn hcarryOn later
      have hreached : max latest elapsed = last ∨ ∃ time ∈ later, time.2 = last := by
        rcases hlast with rfl | ⟨time, hmem, htime⟩
        · exact .inl (Nat.max_eq_left helapsed)
        · rcases List.mem_cons.mp hmem with rfl | hmem
          · have htime : elapsed = last := htime
            exact .inl (by omega)
          · exact .inr ⟨time, hmem, htime⟩
      have hdrive := ih hsettled ⟨hnext, hlater⟩ hreached
      rcases hdrive with ⟨hcarriedOn, hlast⟩ | ⟨fault, hfault, hfailed⟩
      · exact .inl ⟨hresult.trans hcarriedOn, hstate ▸ hlast⟩
      · refine .inr ⟨fault, hfault, hresult.trans hfailed.result, ?_, ?_⟩
        · rw [hstate, hfailed.cpu]
        · rw [hstate]
          exact hfailed.interpreter
    | error fault =>
      -- no later time can make up for a step that fails
      have hfailed := herror fault hstepped
      obtain ⟨hresult, hstate⟩ := drive_of_error hfailed.result later
      have hsteps := Interpreter.steps_of_error hstepped more
      rw [← hmore] at hsteps
      refine .inr ⟨fault, by rw [hsteps, hstepped], hresult, ?_, ?_⟩
      · rw [hstate, hsteps, hfailed.cpu]
      · rw [hstate, hsteps]
        exact hfailed.interpreter

/-! ## Section 4: The main result -/

omit [Buzzer β] in
/-- A new session has settled before any time has passed. -/
theorem settled_new (i : Interpreter σ) (rates : Rates) {display : δ} {input : ι} (buzzer : β)
    (hobliging : Obliging display) (hquiet : Quiet input) :
    Settled i rates 0
      ({ interpreter := i, display, input, buzzer, rates } : Session σ δ ι β) := by
  refine ⟨rfl, ⟨hquiet, hobliging⟩, rates.due_zero.symm, ?_, ?_⟩
  · rw [Rates.due_zero]
    rfl
  · rw [Rates.due_zero]
    rfl

/-- Driven to its latest time, a new session that nothing interferes with has settled or failed. -/
theorem drive_new (i : Interpreter σ) (rates : Rates) {display : δ} {input : ι} (buzzer : β)
    (hobliging : Obliging display) (hquiet : Quiet input) {schedule : List (Nat × Nat)} {last : Nat}
    (hlast : (schedule.map Prod.snd).max? = some last) (hfit : rates.Fit last)
    (hspares : ∀ op ∈ instructions (Cadence.target last rates.cpu) i, op.sparesTimers = true) :
    let turn := Session.drive schedule
      ({ interpreter := i, display, input, buzzer, rates } : Session σ δ ι β)
    turn.result = .ok .carryOn ∧ Settled i rates last turn.state ∨
      ∃ fault, (steps (Cadence.target last rates.cpu) i).2.result = .error fault ∧
        Failed i fault (Cadence.target last rates.cpu) turn := by
  obtain ⟨hmem, hbound⟩ := List.max?_eq_some_iff.mp hlast
  have hbound : ∀ time ∈ schedule, time.2 ≤ last :=
    fun time htime => hbound _ (List.mem_map_of_mem htime)
  exact (settled_new i rates buzzer hobliging hquiet).drive ⟨Nat.zero_le last, hbound⟩
    (.inr (List.mem_map.mp hmem)) hfit hspares

/-- Two new sessions are given equal interpreters and equal rates, inputs that have nothing to tell
    and displays that refuse nothing, and are driven along any two schedules with the same latest
    time. Let none of the instructions of the steps that are due by then touch a timer. If all of
    these steps succeed, all advances carry on, and in the end interpreters and counts are equal. If
    one of them fails, both sessions stop at this step, with its fault, and the machines are equal
    but for the timers. -/
theorem slicing_makes_no_difference {δ' ι' β' : Type} [Display δ'] [Input ι'] [Buzzer β']
    (i : Interpreter σ) (rates : Rates) {display : δ} {display' : δ'} {input : ι} {input' : ι'}
    (buzzer : β) (buzzer' : β') (hobliging : Obliging display) (hobliging' : Obliging display')
    (hquiet : Quiet input) (hquiet' : Quiet input') {schedule schedule' : List (Nat × Nat)}
    {last : Nat} (hlast : (schedule.map Prod.snd).max? = some last)
    (hlast' : (schedule'.map Prod.snd).max? = some last) (hfit : rates.Fit last)
    (hspares : ∀ op ∈ instructions (Cadence.target last rates.cpu) i, op.sparesTimers = true) :
    let s : Session σ δ ι β := { interpreter := i, display, input, buzzer, rates }
    let s' : Session σ δ' ι' β' :=
      { interpreter := i, display := display', input := input', buzzer := buzzer', rates }
    let turn := drive schedule s
    let turn' := drive schedule' s'
    let stepped := steps (Cadence.target last rates.cpu) i
    (stepped.2.result = .ok () →
      turn.result = .ok .carryOn ∧ turn'.result = .ok .carryOn ∧
      turn.state.interpreter = turn'.state.interpreter ∧
      turn.state.counts = turn'.state.counts) ∧
    ∀ fault, stepped.2.result = .error fault →
      turn.result = .error fault ∧ turn'.result = .error fault ∧
      turn.state.counts.cpu = stepped.1 ∧ turn'.state.counts.cpu = stepped.1 ∧
      turn.state.interpreter.machine.SameButTimers turn'.state.interpreter.machine ∧
      turn.state.interpreter.source = turn'.state.interpreter.source := by
  intro s s' turn turn' stepped
  have hturn := drive_new i rates buzzer hobliging hquiet hlast hfit hspares
  have hturn' := drive_new i rates buzzer' hobliging' hquiet' hlast' hfit hspares
  refine ⟨fun hok => ?_, fun fault hfault => ?_⟩
  · obtain ⟨hcarryOn, hsettled⟩ | ⟨fault, hfault, -⟩ := hturn
    case inr => cases hok.symm.trans hfault
    obtain ⟨hcarryOn', hsettled'⟩ | ⟨fault, hfault, -⟩ := hturn'
    case inr => cases hok.symm.trans hfault
    exact ⟨hcarryOn, hcarryOn', hsettled.interpreter_eq.trans hsettled'.interpreter_eq.symm,
      hsettled.counts_eq.trans hsettled'.counts_eq.symm⟩
  · obtain ⟨-, hsettled⟩ | ⟨other, hother, hfailed⟩ := hturn
    case inl => cases hsettled.stepped.symm.trans hfault
    obtain ⟨-, hsettled'⟩ | ⟨other', hother', hfailed'⟩ := hturn'
    case inl => cases hsettled'.stepped.symm.trans hfault
    obtain rfl := Except.error.inj (hother.symm.trans hfault)
    obtain rfl := Except.error.inj (hother'.symm.trans hfault)
    obtain ⟨t, ht⟩ := hfailed.interpreter
    obtain ⟨t', ht'⟩ := hfailed'.interpreter
    have hsame := Interpreter.ticks_sameButTimers t t' stepped.2.state
    rw [← ht, ← ht'] at hsame
    exact ⟨hfailed.result, hfailed'.result, hfailed.cpu, hfailed'.cpu, hsame.1, hsame.2⟩

/-- A session with a program that counts in V0, `ADD V0, 1` and a jump back to it, and with the
    delay timer at 9. -/
def counting : Session Stride FrameKeeper Script Mute where
  interpreter :=
    let loaded := (Interpreter.load (.whole [0x70, 0x01, 0x12, 0x00]) (.fresh ⟨1, 0⟩)).state
    { loaded with machine := { loaded.machine with delay := 9 } }
  display := {}
  input := ⟨[]⟩
  buzzer := {}
  rates := {}

/-- Twenty milliseconds at once. -/
def oneSlice : List (Nat × Nat) := [(0, 20000000)]

/-- The same in slices, with a time that runs backwards. -/
def fourSlices : List (Nat × Nat) := [(0, 7000000), (1, 18000000), (2, 9000000), (3, 20000000)]

/-- An input that is out of batches has nothing to tell. -/
theorem quiet_script : Quiet (⟨[]⟩ : Script) := by
  intro times now
  have hscript : times.foldl (fun i now => (Input.poll now i).state) (⟨[]⟩ : Script) = ⟨[]⟩ := by
    induction times with
    | nil => rfl
    | cons time later ih => exact ih
  rw [hscript]
  rfl

theorem obliging_frameKeeper (display : FrameKeeper) : Obliging display := fun _ _ => rfl

/-- Both ways ten steps and a tick are made, the tick before the steps or after three of them. -/
theorem counting_sliced :
    (oneSlice.map Prod.snd).max? = some 20000000 ∧
    (fourSlices.map Prod.snd).max? = some 20000000 ∧
    (drive oneSlice counting).result = .ok .carryOn ∧
    (drive fourSlices counting).result = .ok .carryOn ∧
    (drive oneSlice counting).state.interpreter = (drive fourSlices counting).state.interpreter ∧
    (drive oneSlice counting).state.counts = (drive fourSlices counting).state.counts := by
  have hone : (oneSlice.map Prod.snd).max? = some 20000000 := by decide
  have hfour : (fourSlices.map Prod.snd).max? = some 20000000 := by decide
  have hfit : counting.rates.Fit 20000000 := by
    constructor <;> unfold Cadence.Fits <;> decide
  have hspares : ∀ op ∈ instructions (Cadence.target 20000000 counting.rates.cpu)
      counting.interpreter, op.sparesTimers = true := by decide +kernel
  have hok : (steps (Cadence.target 20000000 counting.rates.cpu)
      counting.interpreter).2.result = .ok () := by decide +kernel
  have hquiet : Quiet counting.input := quiet_script
  have hobliging : Obliging counting.display := obliging_frameKeeper counting.display
  obtain ⟨hsame, -⟩ := slicing_makes_no_difference counting.interpreter counting.rates
    counting.buzzer counting.buzzer hobliging hobliging hquiet hquiet hone hfour hfit hspares
  have heta : (⟨counting.interpreter, counting.display, counting.input, counting.buzzer,
    counting.rates, {}⟩ : Session _ _ _ _) = counting := rfl
  rw [heta] at hsame
  exact ⟨hone, hfour, hsame hok⟩

end Session

end Chip8
