import Chip8.Proofs.Keyboard.Held
import Chip8.Proofs.Session.Phase

/-! # Which events are applied

    The events of a poll are applied in order, up to the first that ends the batch: a wish to stop,
    or a key that there is none of. Those before it count, and the end decides what becomes of the
    advance; what comes after it is lost. An advance whose batch has an end does nothing else, and
    one whose batch has none goes on with the ticks and then with the steps.

    What a batch makes of a machine is told by its events alone: a latch is what the last event of
    its key says, and the first key that goes down ends a wait. -/

namespace Chip8

/-! ## Section 1: Events -/

namespace KeyEvent

/-- Does a batch end with this event? -/
def ends : KeyEvent → Bool
  | .quit => true
  | .down key | .up key => 15 < key.toNat

/-- What becomes of an advance whose batch ends with this event. -/
def verdict : KeyEvent → Except Fault Flow
  | .quit => .ok .quit
  | .down key | .up key => .error (.invalidKey key)

theorem verdict_ne_carryOn (event : KeyEvent) : event.verdict ≠ .ok .carryOn := by
  cases event <;> exact nofun

/-- The key that goes down. -/
def down? : KeyEvent → Option UInt8
  | .down key => some key
  | _ => none

/-- What an event says about the latch of a key. -/
def latch? (k : Fin 16) : KeyEvent → Option Bool
  | .down key => if key.toNat = k then some true else none
  | .up key => if key.toNat = k then some false else none
  | .quit => none

end KeyEvent

/-- The event whose application this act tells of. -/
def Act.event? : Act → Option KeyEvent
  | .pressed key => some (.down key)
  | .released key => some (.up key)
  | _ => none

namespace Machine

/-! ## Section 2: What events make of a machine -/

/-- What events, none of which ends a batch, make of a machine. -/
structure Told (events : List KeyEvent) (m after : Machine) : Prop where
  /-- They reach registers, latches and the mode at most. -/
  rest : after = { m with registers := after.registers, keys := after.keys, mode := after.mode }
  /-- The last event of a key decides on its latch. -/
  keys : ∀ k : Fin 16, after.keys.get k =
    (events.reverse.findSome? (KeyEvent.latch? k)).getD (m.keys.get k)
  /-- A machine that waits for no key, or gets none, is otherwise as it was. -/
  same : m.mode = .running ∨ events.findSome? KeyEvent.down? = none →
    after.registers = m.registers ∧ after.mode = m.mode
  /-- The first key that goes down ends a wait. -/
  woken : ∀ r key, m.mode = .awaitingKey r → events.findSome? KeyEvent.down? = some key →
    after.registers = (m.setRegister r key).registers ∧ after.mode = .running

variable {m between after : Machine} {earlier later : List KeyEvent}

theorem Told.nil (m : Machine) : Told [] m m where
  rest := rfl
  keys _ := rfl
  same _ := ⟨rfl, rfl⟩
  woken _ _ _ h := by cases h

theorem Told.down (m : Machine) {key : UInt8} (h : key.toNat < 16) :
    Told [.down key] m (m.pressed key ⟨key.toNat, h⟩) where
  rest := by
    unfold pressed
    cases m.mode <;> rfl
  keys k := by
    rw [pressed_keys, keys_setKey]
    by_cases hk : key.toNat = k <;> simp [KeyEvent.latch?, hk]
  same := by
    rintro (hrunning | hnone)
    · have hlatched : m.pressed key ⟨key.toNat, h⟩ = m.setKey ⟨key.toNat, h⟩ true := by
        unfold pressed
        rw [hrunning]
      rw [hlatched]
      exact ⟨rfl, rfl⟩
    · cases hnone
  woken r key' hparked hkey := by
    obtain rfl : key = key' := Option.some.inj hkey
    unfold pressed
    rw [hparked]
    exact ⟨rfl, rfl⟩

theorem Told.up (m : Machine) {key : UInt8} (h : key.toNat < 16) :
    Told [.up key] m (m.setKey ⟨key.toNat, h⟩ false) where
  rest := rfl
  keys k := by
    rw [keys_setKey]
    by_cases hk : key.toNat = k <;> simp [KeyEvent.latch?, hk]
  same _ := ⟨rfl, rfl⟩
  woken _ _ _ hkey := by cases hkey

/-- Some events, and then others. -/
theorem Told.trans (hfirst : Told earlier m between) (hlater : Told later between after) :
    Told (earlier ++ later) m after where
  rest := by
    have hbetween := hfirst.rest
    rw [hlater.rest, hbetween]
  keys k := by
    rw [hlater.keys, hfirst.keys, List.reverse_append, List.findSome?_append, Option.getD_or]
  same h := by
    rw [List.findSome?_append, Option.or_eq_none_iff] at h
    obtain ⟨hregisters, hmode⟩ := hfirst.same (h.imp_right And.left)
    obtain ⟨hregisters', hmode'⟩ := hlater.same (h.imp (hmode.trans ·) And.right)
    exact ⟨hregisters'.trans hregisters, hmode'.trans hmode⟩
  woken r key hparked hkey := by
    rw [List.findSome?_append] at hkey
    cases hdown : earlier.findSome? KeyEvent.down? with
    | some first =>
      -- this is the key, and the later events find the machine running
      rw [hdown] at hkey
      obtain rfl : first = key := Option.some.inj hkey
      obtain ⟨hregisters, hmode⟩ := hfirst.woken r first hparked hdown
      obtain ⟨hregisters', hmode'⟩ := hlater.same (.inl hmode)
      exact ⟨hregisters'.trans hregisters, hmode'.trans hmode⟩
    | none =>
      rw [hdown] at hkey
      obtain ⟨hregisters, hmode⟩ := hfirst.same (.inr hdown)
      have hset : (between.setRegister r key).registers = (m.setRegister r key).registers := by
        unfold setRegister
        rw [hregisters]
      rw [← hset]
      exact hlater.woken r key (hmode.trans hparked) hkey

end Machine

namespace Interpreter

/-! ## Section 3: What events make of an interpreter -/

variable {σ : Type} [ByteSource σ]

theorem answers_append (earlier later : List Operation) (i : Interpreter σ) :
    answers (earlier ++ later) i = answers earlier i ++ answers later (run earlier i) := by
  induction earlier generalizing i with
  | nil => rfl
  | cons operation rest ih => exact congrArg (_ :: ·) (ih (perform operation i).state)

/-- Events that are applied to `i`, each in its turn, none of them refused, lead to `j`, and the
    acts tell of them and of nothing else. -/
structure Heeded (events : List KeyEvent) (i j : Interpreter σ) (acts : List Act) : Prop where
  run : run (events.filterMap KeyEvent.operation?) i = j
  answers : ∀ answer ∈ answers (events.filterMap KeyEvent.operation?) i, answer = .ok none
  machine : Machine.Told events i.machine j.machine
  source : j.source = i.source
  acts : acts.filterMap Act.event? = events

variable {i between j : Interpreter σ} {first acts : List Act} {earlier later : List KeyEvent}

theorem Heeded.nil (i : Interpreter σ) (h : acts.filterMap Act.event? = []) :
    Heeded [] i i acts where
  run := rfl
  answers := nofun
  machine := .nil i.machine
  source := rfl
  acts := h

theorem Heeded.trans (hfirst : Heeded earlier i between first)
    (hlater : Heeded later between j acts) :
    Heeded (earlier ++ later) i j (first ++ acts) where
  run := by
    rw [List.filterMap_append, run_append, hfirst.run, hlater.run]
  answers := by
    rw [List.filterMap_append, answers_append, hfirst.run, List.forall_mem_append]
    exact ⟨hfirst.answers, hlater.answers⟩
  machine := hfirst.machine.trans hlater.machine
  source := hlater.source.trans hfirst.source
  acts := by
    rw [List.filterMap_append, hfirst.acts, hlater.acts]

/-- One event, by the operation that it asks for. -/
theorem heeded_of_perform {event : KeyEvent} {operation : Operation}
    (hoperation : event.operation? = some operation)
    (hperform : perform operation i = ⟨j, .ok none, acts⟩)
    (hmachine : Machine.Told [event] i.machine j.machine) (hsource : j.source = i.source)
    (hacts : acts.filterMap Act.event? = [event]) : Heeded [event] i j acts := by
  have hoperations : [event].filterMap KeyEvent.operation? = [operation] := by
    simp [hoperation]
  refine ⟨?_, ?_, hmachine, hsource, hacts⟩
  · rw [hoperations, run_cons, hperform]
    rfl
  · rw [hoperations]
    simp [answers, hperform]

/-- A key that there is goes down. -/
theorem keyDown_heeded (i : Interpreter σ) {key : UInt8} (h : key.toNat < 16) :
    ∃ j acts, keyDown key i = ⟨j, .ok (), acts⟩ ∧ Heeded [.down key] i j acts := by
  have hdown : i.machine.keyDown key = .ok (i.machine.pressed key ⟨key.toNat, h⟩) :=
    Machine.keyDown_ok_iff.mpr ⟨h, rfl⟩
  -- the act of the key may follow a note on the end of a wait
  have hturn : ∃ acts, keyDown key i =
      ⟨{ i with machine := i.machine.pressed key ⟨key.toNat, h⟩ }, .ok (), acts⟩ ∧
      acts.filterMap Act.event? = [.down key] := by
    unfold keyDown become
    rw [hdown]
    cases i.machine.mode <;> exact ⟨_, rfl, rfl⟩
  obtain ⟨acts, hturn, hacts⟩ := hturn
  refine ⟨_, acts, hturn, heeded_of_perform rfl ?_ (.down i.machine h) rfl hacts⟩
  rw [perform_keyDown, hturn]
  rfl

/-- A key that there is goes up. -/
theorem keyUp_heeded (i : Interpreter σ) {key : UInt8} (h : key.toNat < 16) :
    ∃ j acts, keyUp key i = ⟨j, .ok (), acts⟩ ∧ Heeded [.up key] i j acts := by
  have hup : i.machine.keyUp key = .ok (i.machine.setKey ⟨key.toNat, h⟩ false) :=
    Machine.keyUp_ok_iff.mpr ⟨h, rfl⟩
  have hturn : keyUp key i =
      ⟨{ i with machine := i.machine.setKey ⟨key.toNat, h⟩ false }, .ok (), [.released key]⟩ := by
    unfold keyUp become
    rw [hup]
  refine ⟨_, _, hturn, heeded_of_perform rfl ?_ (.up i.machine h) rfl rfl⟩
  rw [perform_keyUp, hturn]
  rfl

end Interpreter

namespace Session

open Chip8.Action

/-! ## Section 4: A batch -/

variable {σ δ ι β : Type}

/-- A call to the interpreter that goes through, and then the rest of a batch. -/
theorem andThen_apply_of_ok {x : Action (Interpreter σ) Unit} {s : Session σ δ ι β}
    {j : Interpreter σ} {acts : List Act} (h : x s.interpreter = ⟨j, .ok (), acts⟩)
    (rest : List KeyEvent) :
    let later := apply rest { s with interpreter := j }
    andThen (onInterpreter x) (fun _ => apply rest) s =
      ⟨later.state, later.result, acts ++ later.acts⟩ := by
  have hcall : onInterpreter x s = ⟨{ s with interpreter := j }, .ok (), acts⟩ := by
    unfold onInterpreter onPart
    rw [h]
  have hok : (onInterpreter x s).result = .ok () := by rw [hcall]
  rw [andThen_ok hok, hcall]

/-- After a call that is refused there is no rest. -/
theorem andThen_apply_of_error {x : Action (Interpreter σ) Unit} {s : Session σ δ ι β}
    {fault : Fault} (h : x s.interpreter = ⟨s.interpreter, .error fault, []⟩)
    (rest : List KeyEvent) :
    andThen (onInterpreter x) (fun _ => apply rest) s = ⟨s, .error fault, []⟩ := by
  have hcall : onInterpreter x s = ⟨s, .error fault, []⟩ := by
    unfold onInterpreter onPart
    rw [h]
  have herror : (onInterpreter x s).result = .error fault := by rw [hcall]
  rw [andThen_error herror, hcall]

/-- An event that ends the batch decides on the result, and nothing is done but to leave a note. -/
theorem apply_cons_of_ends {event : KeyEvent} (h : event.ends = true) (rest : List KeyEvent)
    (s : Session σ δ ι β) :
    ∃ notes, notes.filterMap Act.event? = [] ∧
      apply (event :: rest) s = ⟨s, event.verdict, notes⟩ := by
  cases event with
  | quit => exact ⟨[.note (.quit s.counts.cpu)], rfl, rfl⟩
  | down key =>
    have hdown : s.interpreter.machine.keyDown key = .error (.invalidKey key) :=
      (Machine.keyDown_error_iff _ _).mpr ⟨of_decide_eq_true h, rfl⟩
    refine ⟨[], rfl, andThen_apply_of_error ?_ rest⟩
    unfold Interpreter.keyDown Interpreter.become
    rw [hdown]
  | up key =>
    have hup : s.interpreter.machine.keyUp key = .error (.invalidKey key) :=
      (Machine.keyUp_error_iff _ _).mpr ⟨of_decide_eq_true h, rfl⟩
    refine ⟨[], rfl, andThen_apply_of_error ?_ rest⟩
    unfold Interpreter.keyUp Interpreter.become
    rw [hup]

variable [ByteSource σ]

/-- After any other event there is the rest of the batch. -/
theorem apply_cons_of_not_ends {event : KeyEvent} (h : event.ends = false) (rest : List KeyEvent)
    (s : Session σ δ ι β) :
    ∃ between first, Interpreter.Heeded [event] s.interpreter between first ∧
      let later := apply rest { s with interpreter := between }
      apply (event :: rest) s = ⟨later.state, later.result, first ++ later.acts⟩ := by
  cases event with
  | quit => cases h
  | down key =>
    have hkey : key.toNat < 16 := Nat.lt_of_not_le (of_decide_eq_false h)
    obtain ⟨between, first, hdown, hheeded⟩ := Interpreter.keyDown_heeded s.interpreter hkey
    exact ⟨between, first, hheeded, andThen_apply_of_ok hdown rest⟩
  | up key =>
    have hkey : key.toNat < 16 := Nat.lt_of_not_le (of_decide_eq_false h)
    obtain ⟨between, first, hup, hheeded⟩ := Interpreter.keyUp_heeded s.interpreter hkey
    exact ⟨between, first, hheeded, andThen_apply_of_ok hup rest⟩

/-- A batch is applied up to its end, and its end decides on the result. -/
theorem apply_heeded (batch : List KeyEvent) (s : Session σ δ ι β) :
    ∃ j acts, Interpreter.Heeded (batch.takeWhile (!·.ends)) s.interpreter j acts ∧
      apply batch s =
        ⟨{ s with interpreter := j },
          (batch.find? KeyEvent.ends).elim (.ok .carryOn) KeyEvent.verdict, acts⟩ := by
  induction batch generalizing s with
  | nil => exact ⟨s.interpreter, [], .nil _ rfl, rfl⟩
  | cons event rest ih =>
    cases hends : event.ends with
    | true =>
      obtain ⟨notes, hnotes, happly⟩ := apply_cons_of_ends hends rest s
      rw [List.takeWhile_cons_of_neg (by simp [hends]), List.find?_cons_of_pos hends]
      exact ⟨s.interpreter, notes, .nil _ hnotes, happly⟩
    | false =>
      obtain ⟨between, first, hfirst, happly⟩ := apply_cons_of_not_ends hends rest s
      obtain ⟨j, later, hlater, hrest⟩ := ih { s with interpreter := between }
      rw [List.takeWhile_cons_of_pos (by simp [hends]), List.find?_cons_of_neg (by simp [hends])]
      refine ⟨j, first ++ later, hfirst.trans hlater, ?_⟩
      rw [happly, hrest]

/-! ## Section 5: An advance -/

section

variable [Input ι]

/-- The batch of a poll is applied, and the journal tells of the poll and of the events. -/
theorem hear_heeded {now : Nat} {s : Session σ δ ι β} {batch : List KeyEvent}
    (h : (Input.poll now s.input).result = .ok batch) :
    let polled := Input.poll now s.input
    ∃ j heard, Interpreter.Heeded (batch.takeWhile (!·.ends)) s.interpreter j heard ∧
      (∀ act ∈ heard, act.Suits .events) ∧
      hear now s =
        ⟨{ s with input := polled.state, interpreter := j },
          (batch.find? KeyEvent.ends).elim (.ok .carryOn) KeyEvent.verdict,
          polled.acts ++ heard⟩ := by
  intro polled
  obtain ⟨j, acts, hheeded, happly⟩ := apply_heeded batch { s with input := polled.state }
  refine ⟨j, .polled :: acts, { hheeded with acts := hheeded.acts }, ?_, ?_⟩
  · rw [List.forall_mem_cons]
    exact ⟨Act.suits_of_phase rfl, (enters_apply batch).mem happly⟩
  · have hheard := hear_of_ok h
    dsimp only at hheard
    rw [hheard, happly, List.append_assoc]
    rfl

variable [Display δ] [Buzzer β]

/-- After the events there is the work, and nothing that comes after it reaches the interpreter. -/
theorem advance_of_heard {now : Nat} {s s₁ : Session σ δ ι β} {told : List Act}
    (h : hear now s = ⟨s₁, .ok .carryOn, told⟩) (elapsed : Nat) :
    (advance now elapsed s).state.progress = (work elapsed s₁).state.progress ∧
      ∃ rest, (advance now elapsed s).acts = told ++ (work elapsed s₁).acts ++ rest := by
  have hcourse := advance_course now elapsed s
  generalize advance now elapsed s = turn, reached now elapsed s = phase at hcourse
  cases hcourse with
  | stopped hstop => exact absurd (congrArg Turn.result h) hstop
  | stepFailed hheard hworked =>
    cases h.symm.trans hheard
    rw [hworked]
    exact ⟨rfl, [], (List.append_nil _).symm⟩
  | drawRefused hheard hworked hdrawn =>
    cases h.symm.trans hheard
    rw [hworked]
    exact ⟨(keeps_drawUpTo progress (fun _ _ _ => rfl) _).eq hdrawn, _,
      (List.append_assoc ..).symm⟩
  | finished hheard hworked hdrawn hmatched =>
    cases h.symm.trans hheard
    rw [hworked]
    have hshown := (keeps_drawUpTo progress (fun _ _ _ => rfl) _).eq hdrawn
    have hsounded := (keeps_matchBuzzer progress fun _ _ => rfl).eq hmatched
    exact ⟨hsounded.trans hshown, _, (List.append_assoc ..).symm⟩

/-! ## Section 6: The main result -/

/-- An advance and the events of its poll. If the poll fails then so does the advance, and only the
    input has changed. Otherwise the events up to the end of the batch are applied, in their order
    and none of them refused; the journal tells of no others. If the batch has an end, it decides on
    the result, and apart from the input and the interpreter the session is as it was: nothing is
    ticked, stepped, drawn or sounded. If it has none, all ticks that are due come next and then the
    steps that are due; these leave the latches as they are. -/
theorem batch_applied_up_to_its_end (now elapsed : Nat) (s : Session σ δ ι β) :
    let polled := Input.poll now s.input
    let turn := advance now elapsed s
    (∀ fault, polled.result = .error fault →
      turn = ⟨{ s with input := polled.state }, .error fault, polled.acts⟩) ∧
    ∀ batch, polled.result = .ok batch →
      let applied := batch.takeWhile (!·.ends)
      let operations := applied.filterMap KeyEvent.operation?
      let told := Interpreter.run operations s.interpreter
      let ticks := Cadence.target elapsed s.rates.timer - s.counts.timer
      let steps := Cadence.target elapsed s.rates.cpu - s.counts.cpu
      (∀ answer ∈ Interpreter.answers operations s.interpreter, answer = .ok none) ∧
      Machine.Told applied s.interpreter.machine told.machine ∧
      told.source = s.interpreter.source ∧
      ∃ heard, heard.filterMap Act.event? = applied ∧ (∀ act ∈ heard, act.Suits .events) ∧
        (∀ stop, batch.find? KeyEvent.ends = some stop →
          turn = ⟨{ s with input := polled.state, interpreter := told }, stop.verdict,
            polled.acts ++ heard⟩) ∧
        (batch.find? KeyEvent.ends = none →
          let stepped := Interpreter.steps steps (Interpreter.ticks ticks told).state
          turn.state.interpreter = stepped.2.state ∧
          turn.state.interpreter.machine.keys = told.machine.keys ∧
          turn.state.counts.timer = s.counts.timer + ticks ∧
          turn.state.counts.cpu = s.counts.cpu + stepped.1 ∧
          .ticked ∉ stepped.2.acts ∧
          ∃ rest, turn.acts =
            polled.acts ++ heard ++ List.replicate ticks .ticked ++ stepped.2.acts ++ rest) := by
  intro polled turn
  constructor
  · intro fault hfault
    have hheard := hear_of_error hfault
    have hstopped : (hear now s).result ≠ .ok .carryOn := by
      rw [hheard]
      exact nofun
    exact (advance_of_stopped hstopped).trans hheard
  · intro batch hbatch applied operations told ticks steps
    obtain ⟨j, heard, hheeded, hsuits, hheard⟩ := hear_heeded hbatch
    obtain rfl : told = j := hheeded.run
    refine ⟨hheeded.answers, hheeded.machine, hheeded.source, heard, hheeded.acts, hsuits, ?_, ?_⟩
    · intro stop hstop
      rw [hstop] at hheard
      have hstopped : (hear now s).result ≠ .ok .carryOn := by
        rw [hheard]
        exact stop.verdict_ne_carryOn
      exact (advance_of_stopped hstopped).trans hheard
    · intro hnone stepped
      rw [hnone] at hheard
      obtain ⟨hprogress, rest, hacts⟩ := advance_of_heard hheard elapsed
      rw [work_eq] at hprogress hacts
      dsimp only at hprogress hacts
      rw [Interpreter.ticks_acts, ← List.append_assoc] at hacts
      obtain ⟨hinterpreter, hcounts⟩ := Prod.mk.inj hprogress
      obtain ⟨htimer, hcpu⟩ := Prod.mk.inj hcounts
      refine ⟨hinterpreter, ?_, htimer.trans ?_, hcpu, ?_, rest, hacts⟩
      · exact (congrArg (·.machine.keys) hinterpreter).trans
          ((Interpreter.keys_steps _ _).trans (Interpreter.keys_ticks _ told))
      · show max s.counts.timer (Cadence.target elapsed s.rates.timer) = _ + (_ - s.counts.timer)
        omega
      · intro hmem
        obtain ⟨n, hnote⟩ | hstepped := (Interpreter.steps_progress _ _).acts _ hmem
        · cases hnote
        · cases hstepped

end

/-- A machine waits for a key. It gets two of them before a third that there is not, and after a
    second everything would have been due: the first key is in the waiting register, only the second
    is still down, and the timer has not moved. -/
theorem two_keys_and_one_too_many :
    let waiting : Machine := { Machine.fresh with mode := .awaitingKey 0x25, delay := 9 }
    let s : Session Stride FrameKeeper Script Mute :=
      { interpreter := ⟨waiting, ⟨1, 0⟩⟩
        display := {}
        input := ⟨[[.down 7, .up 7, .down 3, .down 200, .quit]]⟩
        buzzer := {}
        rates := {} }
    let turn := advance 0 1000000000 s
    let m := turn.state.interpreter.machine
    turn.result = .error (.invalidKey 200) ∧ turn.state.counts = {} ∧ m.mode = .running ∧
    m.registers.get 5 = 7 ∧ m.keys.get 7 = false ∧ m.keys.get 3 = true ∧ m.delay = 9 := by
  intro waiting s turn m
  obtain ⟨-, hbatch⟩ := batch_applied_up_to_its_end 0 1000000000 s
  obtain ⟨-, htold, -, heard, -, -, hstop, -⟩ := hbatch _ rfl
  have hturn := hstop (.down 200) rfl
  obtain ⟨hregisters, hmode⟩ := htold.woken 0x25 7 rfl rfl
  have hdelay := congrArg Machine.delay htold.rest
  have hm : m = (Interpreter.run ([KeyEvent.down 7, .up 7, .down 3].filterMap KeyEvent.operation?)
      s.interpreter).machine := congrArg (fun turn => turn.state.interpreter.machine) hturn
  rw [hm]
  refine ⟨congrArg Turn.result hturn, congrArg (fun turn => turn.state.counts) hturn, hmode, ?_,
    htold.keys 7, htold.keys 3, hdelay⟩
  exact (congrArg (·.get 5) hregisters).trans rfl

end Session

end Chip8
