import Chip8.Proofs.Interpreter.Journal
import Chip8.Session.Schedule

/-! # The phases of an advance

    An advance hears what the input has to say, does the ticks and the steps that are due, draws a
    frame if one is due, and sees to the buzzer. It may end in any of these four phases, and then
    those after it do not take place. `Course` lists the ways in which an advance can go, each with
    the turns that it is made of, and what holds of advances is proved by cases on it.

    For every phase it is said which parts of a session it leaves alone and which acts it enters. -/

namespace Chip8

/-! ## Section 1: Phases and their acts -/

/-- The phases of an advance, in the order that they take place in. -/
inductive Phase where
  /-- The input is asked, and events are applied. -/
  | events
  /-- First the timers and then the machine catch up. -/
  | work
  | frame
  | buzzer
  deriving DecidableEq

/-- An advance that gets through its work gets to the frame, if not to its end. -/
theorem Phase.past_work_iff {phase : Phase} :
    phase = .frame ∨ phase = .buzzer ↔ phase ≠ .events ∧ phase ≠ .work := by
  cases phase <;> simp

/-- The phase that an act belongs to. A note belongs to none. -/
def Act.phase? : Act → Option Phase
  | .note _ => none
  | .polled | .pressed _ | .released _ => some .events
  | .ticked | .stepped => some .work
  | .drew _ | .drawRefused => some .frame
  | .buzzed _ | .buzzRefused _ => some .buzzer

/-- The act belongs to this phase, if it belongs to any. -/
def Act.Suits (phase : Phase) (act : Act) : Prop := ∀ p ∈ act.phase?, p = phase

theorem Act.IsNote.suits {phase : Phase} {act : Act} (h : act.IsNote) : act.Suits phase := by
  obtain ⟨n, rfl⟩ := h
  exact nofun

theorem Act.suits_of_phase {phase : Phase} {act : Act} (h : act.phase? = some phase) :
    act.Suits phase := by
  intro p hp
  rw [h] at hp
  exact (Option.some.inj hp).symm

/-- What suits one phase belongs to no other. -/
theorem Act.Suits.phase_ne {phase other : Phase} {act : Act} (h : act.Suits phase)
    (hne : other ≠ phase) : act.phase? ≠ some other :=
  fun hact => hne (h other hact)

/-- The acts of a journal that belong to this phase. -/
def actsOf (phase : Phase) (acts : List Act) : List Act := acts.filter (·.phase? = some phase)

@[simp] theorem actsOf_append (phase : Phase) (earlier later : List Act) :
    actsOf phase (earlier ++ later) = actsOf phase earlier ++ actsOf phase later :=
  List.filter_append ..

/-- There are none among those of another phase, -/
theorem actsOf_of_suits {phase other : Phase} {acts : List Act}
    (h : ∀ act ∈ acts, act.Suits phase) (hne : other ≠ phase) : actsOf other acts = [] := by
  rw [actsOf, List.filter_eq_nil_iff]
  intro act hact
  simpa using (h act hact).phase_ne hne

/-- and none among notes. -/
theorem actsOf_of_notes {acts : List Act} (h : ∀ act ∈ acts, act.IsNote) (phase : Phase) :
    actsOf phase acts = [] := by
  rw [actsOf, List.filter_eq_nil_iff]
  intro act hact
  obtain ⟨n, rfl⟩ := h act hact
  simp [Act.phase?]

namespace Session

open Chip8.Action

variable {σ δ ι β : Type}

/-! ## Section 2: The four phases -/

/-- The events: the result says whether the advance is to go on. -/
def hear [Input ι] (now : Nat) : Action (Session σ δ ι β) Flow := do
  apply (← poll now)

section

variable [Input ι] {now : Nat} {s : Session σ δ ι β}

/-- A poll that fails is all that the events come to. -/
theorem hear_of_error {fault : Fault}
    (h : (Input.poll now s.input).result = .error fault) :
    hear now s = ⟨{ s with input := (Input.poll now s.input).state }, .error fault,
      (Input.poll now s.input).acts⟩ := by
  have hpoll : poll now s = ⟨{ s with input := (Input.poll now s.input).state }, .error fault,
      (Input.poll now s.input).acts⟩ :=
    andThen_error (x := onPart input (fun s input => { s with input }) (Input.poll now)) h
  change andThen (poll now) apply s = _
  rw [andThen_error (congrArg Turn.result hpoll), hpoll]

/-- The batch of any other poll is applied. -/
theorem hear_of_ok {batch : List KeyEvent}
    (h : (Input.poll now s.input).result = .ok batch) :
    let applied := apply batch { s with input := (Input.poll now s.input).state }
    hear now s = ⟨applied.state, applied.result,
      (Input.poll now s.input).acts ++ [.polled] ++ applied.acts⟩ := by
  have hpoll : poll now s = ⟨{ s with input := (Input.poll now s.input).state }, .ok batch,
      (Input.poll now s.input).acts ++ [.polled]⟩ :=
    andThen_ok (x := onPart input (fun s input => { s with input }) (Input.poll now)) h
  change andThen (poll now) apply s = _
  rw [andThen_ok (congrArg Turn.result hpoll), hpoll]

end

/-- The ticks that are due, then the steps that are due. -/
def work [ByteSource σ] (elapsed : Nat) : Action (Session σ δ ι β) Unit := do
  let s ← Action.state
  tickUpTo (Cadence.target elapsed s.rates.timer)
  stepUpTo (Cadence.target elapsed s.rates.cpu)

/-- The ticks cannot fail, so the work is the work of the steps after them. -/
theorem work_eq [ByteSource σ] (elapsed : Nat) (s : Session σ δ ι β) :
    work elapsed s =
      let timer := Cadence.target elapsed s.rates.timer
      let due := Cadence.target elapsed s.rates.cpu - s.counts.cpu
      let ticked := Interpreter.ticks (timer - s.counts.timer) s.interpreter
      let stepped := Interpreter.steps due ticked.state
      ⟨{ s with
          interpreter := stepped.2.state
          counts := { s.counts with
            timer := max s.counts.timer timer
            cpu := s.counts.cpu + stepped.1 } },
        stepped.2.result, ticked.acts ++ stepped.2.acts⟩ := by
  have hticks : (tickUpTo (Cadence.target elapsed s.rates.timer) s).result = .ok () :=
    Interpreter.ticks_result _ s.interpreter
  change andThen (tickUpTo _) (fun _ => stepUpTo (Cadence.target elapsed s.rates.cpu)) s = _
  rw [andThen_ok hticks]
  rfl

/-- The interpreter and what was done to it. -/
def progress (s : Session σ δ ι β) : Interpreter σ × Nat × Nat :=
  (s.interpreter, s.counts.timer, s.counts.cpu)

theorem matchBuzzer_eq [Buzzer β] (s : Session σ δ ι β) :
    matchBuzzer s =
      let active := s.interpreter.machine.soundActive
      if active = Buzzer.sounding s.buzzer then ⟨s, .ok (), []⟩ else buzz active s := by
  have heq : matchBuzzer s =
      (if s.interpreter.machine.soundActive = Buzzer.sounding s.buzzer then pure ()
        else buzz s.interpreter.machine.soundActive : Action (Session σ δ ι β) Unit) s := rfl
  rw [heq]
  dsimp only
  split <;> rfl

/-- A buzzer that refuses does not end an advance. -/
@[simp] theorem matchBuzzer_result [Buzzer β] (s : Session σ δ ι β) :
    (matchBuzzer s).result = .ok () := by
  rw [matchBuzzer_eq]
  dsimp only
  split <;> rfl

/-! ### What they leave alone -/

section

variable {U : Type} (part : Session σ δ ι β → U)

theorem keeps_apply (h : ∀ s interpreter, part { s with interpreter } = part s)
    (events : List KeyEvent) : Keeps part (apply events) := by
  have hcall : ∀ x : Action (Interpreter σ) Unit, Keeps part (onInterpreter x) :=
    fun x => keeps_onPart h
  induction events with
  | nil => exact keeps_pure _
  | cons event rest ih =>
    cases event with
    | quit => exact keeps_state.bind fun _ => (keeps_record _).bind fun _ => keeps_pure _
    | down key => exact (hcall _).bind fun _ => ih
    | up key => exact (hcall _).bind fun _ => ih

theorem keeps_hear [Input ι]
    (h : ∀ s interpreter input, part { s with interpreter, input } = part s) (now : Nat) :
    Keeps part (hear now) := by
  -- asking the input reaches the input only, and applying events the interpreter only
  have hpoll : Keeps part (poll now) := by
    refine Keeps.bind ?_ fun events => (keeps_record _).bind fun _ => keeps_pure _
    exact keeps_onPart fun s input => h s s.interpreter input
  exact hpoll.bind (keeps_apply part fun s interpreter => h s interpreter s.input)

theorem keeps_work [ByteSource σ]
    (h : ∀ s interpreter cpu timer,
      part { s with interpreter, counts := { s.counts with cpu, timer } } = part s)
    (elapsed : Nat) : Keeps part (work elapsed) := by
  intro s
  rw [work_eq]
  exact h s _ _ _

theorem keeps_drawUpTo [Display δ]
    (h : ∀ s display frame,
      part { s with display, counts := { s.counts with frame } } = part s)
    (target : Nat) : Keeps part (drawUpTo target) := by
  intro s
  unfold drawUpTo
  dsimp only
  split
  · split
    · exact h s _ s.counts.frame
    · exact h s _ _
  · rfl

theorem keeps_matchBuzzer [Buzzer β] (h : ∀ s buzzer, part { s with buzzer } = part s) :
    Keeps part matchBuzzer := by
  intro s
  rw [matchBuzzer_eq]
  dsimp only
  split
  · rfl
  · exact h s _

end

/-! ### What they enter -/

theorem enters_keyDown (key : UInt8) :
    Enters (Act.Suits .events) (Interpreter.keyDown key : Action (Interpreter σ) Unit) := by
  intro i
  have hkey : (Act.pressed key).Suits .events := Act.suits_of_phase rfl
  simp only [Interpreter.keyDown, Interpreter.become]
  cases i.machine.keyDown key with
  | error fault => exact nofun
  | ok m =>
    rw [List.forall_mem_append, List.forall_mem_singleton]
    refine ⟨?_, hkey⟩
    split
    · rw [List.forall_mem_singleton]
      exact Act.IsNote.suits ⟨_, rfl⟩
    · exact nofun

theorem enters_keyUp (key : UInt8) :
    Enters (Act.Suits .events) (Interpreter.keyUp key : Action (Interpreter σ) Unit) := by
  intro i
  simp only [Interpreter.keyUp, Interpreter.become]
  cases i.machine.keyUp key with
  | error fault => exact nofun
  | ok m =>
    rw [List.forall_mem_singleton]
    exact Act.suits_of_phase rfl

theorem enters_apply (events : List KeyEvent) :
    Enters (Act.Suits .events) (apply events : Action (Session σ δ ι β) Flow) := by
  induction events with
  | nil => exact enters_pure _
  | cons event rest ih =>
    cases event with
    | quit =>
      have hnote : ∀ n, (Act.note n).Suits .events := fun n => Act.IsNote.suits ⟨n, rfl⟩
      exact enters_state.bind fun _ => (enters_record (hnote _)).bind fun _ => enters_pure _
    | down key => exact (enters_keyDown key).onPart.bind fun _ => ih
    | up key => exact (enters_keyUp key).onPart.bind fun _ => ih

theorem enters_hear [Input ι] [DiscreetInput ι] (now : Nat) :
    Enters (Act.Suits .events) (hear now : Action (Session σ δ ι β) Flow) := by
  have hinput : Enters (Act.Suits .events) (Input.poll now : Action ι (List KeyEvent)) :=
    (DiscreetInput.poll now).mono fun _ => Act.IsNote.suits
  have hpolled : Act.polled.Suits .events := Act.suits_of_phase rfl
  have hpoll : Enters (Act.Suits .events) (poll now : Action (Session σ δ ι β) (List KeyEvent)) :=
    hinput.onPart.bind fun _ => (enters_record hpolled).bind fun _ => enters_pure _
  exact hpoll.bind enters_apply

theorem enters_work [ByteSource σ] (elapsed : Nat) :
    Enters (Act.Suits .work) (work elapsed : Action (Session σ δ ι β) Unit) := by
  intro s
  rw [work_eq]
  simp only [Interpreter.ticks_acts, List.forall_mem_append]
  refine ⟨fun act hact => ?_, fun act hact => ?_⟩
  · rw [List.eq_of_mem_replicate hact]
    exact Act.suits_of_phase rfl
  · rcases (Interpreter.steps_progress _ _).acts act hact with hnote | rfl
    · exact hnote.suits
    · exact Act.suits_of_phase rfl

theorem enters_drawUpTo [Display δ] [DiscreetDisplay δ] (target : Nat) :
    Enters (Act.Suits .frame) (drawUpTo target : Action (Session σ δ ι β) Unit) := by
  intro s
  have hdisplay : ∀ act ∈ (Display.draw s.interpreter.machine.picture s.display).acts,
      act.Suits .frame :=
    fun act hact => (DiscreetDisplay.draw _ _ act hact).suits
  unfold drawUpTo
  dsimp only
  split
  · split
    all_goals
      rw [List.forall_mem_append, List.forall_mem_singleton]
      exact ⟨hdisplay, Act.suits_of_phase rfl⟩
  · exact nofun

theorem enters_buzz [Buzzer β] [DiscreetBuzzer β] (on : Bool) :
    Enters (Act.Suits .buzzer) (buzz on : Action (Session σ δ ι β) Unit) := by
  intro s
  simp only [buzz, List.forall_mem_append]
  refine ⟨fun act hact => (DiscreetBuzzer.turn on s.buzzer act hact).suits, ?_⟩
  split
  · rw [List.forall_mem_singleton]
    exact Act.suits_of_phase rfl
  · rw [List.forall_mem_cons, List.forall_mem_singleton]
    exact ⟨Act.suits_of_phase rfl, Act.IsNote.suits ⟨_, rfl⟩⟩

theorem enters_matchBuzzer [Buzzer β] [DiscreetBuzzer β] :
    Enters (Act.Suits .buzzer) (matchBuzzer : Action (Session σ δ ι β) Unit) := by
  intro s
  rw [matchBuzzer_eq]
  dsimp only
  split
  · exact nofun
  · exact enters_buzz _ s

/-! ## Section 3: The ways an advance can go -/

section

variable [ByteSource σ] [Display δ] [Buzzer β]

/-- Once the events are applied there is the work, and then the rest. -/
theorem catchUp_eq (elapsed : Nat) (s : Session σ δ ι β) :
    catchUp elapsed s =
      andThen (work elapsed) (fun _ =>
        andThen (drawUpTo (Cadence.target elapsed s.rates.frame)) fun _ => matchBuzzer) s := by
  let tick : Action (Session σ δ ι β) Unit := tickUpTo (Cadence.target elapsed s.rates.timer)
  let step : Action (Session σ δ ι β) Unit := stepUpTo (Cadence.target elapsed s.rates.cpu)
  let rest : Action (Session σ δ ι β) Unit :=
    drawUpTo (Cadence.target elapsed s.rates.frame) >>= fun _ => matchBuzzer
  calc catchUp elapsed s
    _ = (tick >>= fun _ => step >>= fun _ => rest) s := rfl
    _ = ((tick >>= fun _ => step) >>= fun _ => rest) s := by rw [bind_assoc]
    _ = (work elapsed >>= fun _ => rest) s := rfl

variable [Input ι]

theorem advance_eq (now elapsed : Nat) (s : Session σ δ ι β) :
    advance now elapsed s =
      andThen (hear now) (fun flow => match flow with
        | .quit => done .quit
        | .carryOn => andThen (catchUp elapsed) fun _ => done .carryOn) s := by
  let rest : Flow → Action (Session σ δ ι β) Flow
    | .quit => done .quit
    | .carryOn => andThen (catchUp elapsed) fun _ => done .carryOn
  calc advance now elapsed s
    _ = (poll now >>= fun events => apply events >>= rest) s := rfl
    _ = (poll now >>= apply >>= rest) s := by rw [bind_assoc]

theorem keeps_advance (now elapsed : Nat) :
    Keeps (rates : Session σ δ ι β → Rates) (advance now elapsed) := by
  intro s
  rw [advance_eq]
  refine (keeps_hear rates (fun _ _ _ => rfl) now).bind (fun flow => ?_) s
  have hcatchUp : Keeps (rates : Session σ δ ι β → Rates) (catchUp elapsed) := by
    intro s
    rw [catchUp_eq]
    exact ((keeps_work rates (fun _ _ _ _ => rfl) elapsed).bind fun _ =>
      (keeps_drawUpTo rates (fun _ _ _ => rfl) _).bind fun _ =>
        keeps_matchBuzzer rates fun _ _ => rfl) s
  cases flow with
  | quit => exact keeps_pure _
  | carryOn => exact hcatchUp.bind fun _ => keeps_pure _

theorem rates_after (schedule : List (Nat × Nat)) (s : Session σ δ ι β) :
    (after schedule s).rates = s.rates := by
  induction schedule generalizing s with
  | nil => rfl
  | cons time later ih => exact (ih _).trans (keeps_advance time.1 time.2 s)

/-- The last phase of an advance that takes place. -/
def reached (now elapsed : Nat) (s : Session σ δ ι β) : Phase :=
  let heard := hear now s
  match heard.result with
  | .error _ | .ok .quit => .events
  | .ok .carryOn =>
    let worked := work elapsed heard.state
    match worked.result with
    | .error _ => .work
    | .ok () =>
      match (drawUpTo (Cadence.target elapsed s.rates.frame) worked.state).result with
      | .error _ => .frame
      | .ok () => .buzzer

/-- The ways in which an advance can go: the last phase that it gets to, and its turn. -/
inductive Course (now elapsed : Nat) (s : Session σ δ ι β) :
    Phase → Turn (Session σ δ ι β) Flow → Prop
  /-- The input failed, an event was refused, or the user wants to stop. -/
  | stopped (h : (hear now s).result ≠ .ok .carryOn) : Course now elapsed s .events (hear now s)
  | stepFailed {s₁ s₂ told done fault} (hheard : hear now s = ⟨s₁, .ok .carryOn, told⟩)
      (hworked : work elapsed s₁ = ⟨s₂, .error fault, done⟩) :
    Course now elapsed s .work ⟨s₂, .error fault, told ++ done⟩
  | drawRefused {s₁ s₂ s₃ told done shown fault}
      (hheard : hear now s = ⟨s₁, .ok .carryOn, told⟩)
      (hworked : work elapsed s₁ = ⟨s₂, .ok (), done⟩)
      (hdrawn : drawUpTo (Cadence.target elapsed s.rates.frame) s₂ = ⟨s₃, .error fault, shown⟩) :
    Course now elapsed s .frame ⟨s₃, .error fault, told ++ (done ++ shown)⟩
  | finished {s₁ s₂ s₃ s₄ told done shown sounded}
      (hheard : hear now s = ⟨s₁, .ok .carryOn, told⟩)
      (hworked : work elapsed s₁ = ⟨s₂, .ok (), done⟩)
      (hdrawn : drawUpTo (Cadence.target elapsed s.rates.frame) s₂ = ⟨s₃, .ok (), shown⟩)
      (hmatched : matchBuzzer s₃ = ⟨s₄, .ok (), sounded⟩) :
    Course now elapsed s .buzzer ⟨s₄, .ok .carryOn, told ++ (done ++ (shown ++ sounded))⟩

/-- Every advance goes in one of these ways. -/
theorem advance_course (now elapsed : Nat) (s : Session σ δ ι β) :
    Course now elapsed s (reached now elapsed s) (advance now elapsed s) := by
  -- the cases are those of `reached`, in the order of the phases
  rcases hheard : hear now s with ⟨s₁, flow, told⟩
  rcases flow with fault | _ | _
  case error | ok.quit =>
    have hreached : reached now elapsed s = .events := by simp only [reached, hheard]
    have hadvance : advance now elapsed s = hear now s := by
      simp [advance_eq, andThen, hheard, done]
    rw [hreached, hadvance]
    exact .stopped (by simp [hheard])
  case ok.carryOn =>
    -- drawing goes by the rates that the advance began with; these are the same
    have hrates : s₁.rates = s.rates := (keeps_hear rates (fun _ _ _ => rfl) now).eq hheard
    rcases hworked : work elapsed s₁ with ⟨s₂, worked, done⟩
    cases worked with
    | error fault =>
      have hcourse := Course.stepFailed hheard hworked
      simpa [reached, advance_eq, catchUp_eq, andThen, hheard, hworked] using hcourse
    | ok _ =>
      rcases hdrawn : drawUpTo (Cadence.target elapsed s.rates.frame) s₂ with ⟨s₃, drawn, shown⟩
      cases drawn with
      | error fault =>
        have hcourse := Course.drawRefused hheard hworked hdrawn
        simpa [reached, advance_eq, catchUp_eq, andThen, hheard, hworked, hrates, hdrawn]
          using hcourse
      | ok _ =>
        rcases hmatched : matchBuzzer s₃ with ⟨s₄, matched, sounded⟩
        obtain rfl : matched = .ok () := by
          have hresult := matchBuzzer_result s₃
          rwa [hmatched] at hresult
        have hcourse := Course.finished hheard hworked hdrawn hmatched
        simpa [reached, advance_eq, catchUp_eq, andThen, hheard, hworked, hrates, hdrawn, hmatched,
          Action.done] using hcourse

/-- An advance that is not to go on after its events is over. -/
theorem advance_of_stopped {now elapsed : Nat} {s : Session σ δ ι β}
    (h : (hear now s).result ≠ .ok .carryOn) : advance now elapsed s = hear now s := by
  have hcourse := advance_course now elapsed s
  generalize advance now elapsed s = turn, reached now elapsed s = phase at hcourse ⊢
  cases hcourse with
  | stopped => rfl
  | stepFailed hheard | drawRefused hheard | finished hheard =>
    exact absurd (congrArg Turn.result hheard) h

end

end Session

end Chip8
