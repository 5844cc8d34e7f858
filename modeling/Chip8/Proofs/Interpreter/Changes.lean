import Mathlib.Data.List.DropRight
import Chip8.Proofs.Interpreter.Latch
import Chip8.Proofs.Interpreter.Waiting

/-! # Timers and latches are what their history says

    Four things happen to timers and latches: a load turns everything off, an instruction sets a
    timer, a tick counts both down, and a key goes up or down. `Change` lists them, and every
    operation does to timers and latches exactly what its change says (`Outcome.timer`,
    `Outcome.latched`); what is refused has no change, and neither has any other instruction.

    So a run is a list of changes. What is left of it is read from its end: nothing before the last
    load counts, of a timer only its last setting and the ticks after that, and of a latch only the
    last event of its key. -/

namespace Chip8

/-! ## Section 1: Changes -/

/-- The two timers. -/
inductive Clock where
  | delay
  | sound
  deriving DecidableEq

/-- What a timer of the machine stands at. -/
def Machine.timer (m : Machine) : Clock → UInt8
  | .delay => m.delay
  | .sound => m.sound

/-- Something that happens to timers or latches. -/
inductive Change where
  /-- A program was loaded, and everything is off. -/
  | restart
  /-- A timer was set to the content of a register. -/
  | set (clock : Clock) (value : UInt8)
  | tick
  /-- A key went down, if `held`, or up. -/
  | key (number : UInt8) (held : Bool)
  deriving DecidableEq

namespace Change

/-- What a change makes of a timer. -/
def timer (clock : Clock) (value : UInt8) : Change → UInt8
  | .restart => 0
  | .set other v => if other = clock then v else value
  | .tick => if value = 0 then 0 else value - 1
  | .key .. => value

/-- What a change makes of the latch of a key. -/
def latch (k : Fin 16) (held : Bool) : Change → Bool
  | .restart => false
  | .key number down => if number.toNat = k then down else held
  | .set .. | .tick => held

/-! ### Reading a list of changes from its end -/

/-- Is nothing before this change of any consequence? -/
def isRestart : Change → Bool
  | .restart => true
  | _ => false

/-- The value that the change sets a timer to, if it does. -/
def setting? (clock : Clock) : Change → Option UInt8
  | .set other v => if other = clock then some v else none
  | _ => none

/-- Whether the key went down, if the change is an event of this key. -/
def movement? (k : Fin 16) : Change → Option Bool
  | .key number down => if number.toNat = k then some down else none
  | _ => none

/-- The changes since the last load. -/
def sinceRestart (changes : List Change) : List Change :=
  changes.rtakeWhile fun c => !c.isRestart

/-- The value that a timer was last set to, 0 if it never was. -/
def lastSet (clock : Clock) (changes : List Change) : UInt8 :=
  (changes.filterMap (setting? clock)).getLast?.getD 0

/-- The number of ticks since a timer was last set. -/
def ticksSince (clock : Clock) (changes : List Change) : Nat :=
  (changes.rtakeWhile fun c => (c.setting? clock).isNone).count .tick

/-- Where a key went last, if it went anywhere. -/
def lastMove (k : Fin 16) (changes : List Change) : Option Bool :=
  (changes.filterMap (movement? k)).getLast?

/-! ### One more change -/

theorem sinceRestart_restart (changes : List Change) :
    sinceRestart (changes ++ [.restart]) = [] :=
  List.rtakeWhile_concat_neg _ _ _ (by simp [isRestart])

theorem sinceRestart_concat (changes : List Change) {c : Change} (h : c.isRestart = false) :
    sinceRestart (changes ++ [c]) = sinceRestart changes ++ [c] :=
  List.rtakeWhile_concat_pos _ _ _ (by simp [h])

theorem lastSet_concat (clock : Clock) (changes : List Change) (c : Change) :
    lastSet clock (changes ++ [c]) = (c.setting? clock).getD (lastSet clock changes) := by
  unfold lastSet
  cases h : c.setting? clock <;> simp [h]

theorem ticksSince_concat_set (clock : Clock) (changes : List Change) (v : UInt8) :
    ticksSince clock (changes ++ [.set clock v]) = 0 := by
  unfold ticksSince
  rw [List.rtakeWhile_concat_neg _ _ _ (by simp [setting?]), List.count_nil]

theorem ticksSince_concat (clock : Clock) (changes : List Change) {c : Change}
    (h : c.setting? clock = none) :
    ticksSince clock (changes ++ [c]) = ticksSince clock changes + if c = .tick then 1 else 0 := by
  unfold ticksSince
  rw [List.rtakeWhile_concat_pos _ _ _ (by simp [h]), List.count_append, List.count_singleton]
  simp

theorem lastMove_concat (k : Fin 16) (changes : List Change) (c : Change) :
    lastMove k (changes ++ [c]) = (c.movement? k).or (lastMove k changes) := by
  unfold lastMove
  cases h : c.movement? k <;> simp [h]

/-! ### Any number of changes -/

/-- What is left of a timer after some changes: the value of its last setting, less the ticks that
    came later, and not below 0. -/
theorem toNat_timer_changes (clock : Clock) (changes : List Change) :
    (changes.foldl (timer clock) 0).toNat =
      (lastSet clock (sinceRestart changes)).toNat - ticksSince clock (sinceRestart changes) := by
  -- changes are added at the end, where the last setting and the ticks after it are counted
  induction changes using List.reverseRecOn with
  | nil => rfl
  | append_singleton changes c ih =>
    rw [List.foldl_concat]
    cases c with
    | restart => rw [sinceRestart_restart]; rfl
    | set other v =>
      rw [sinceRestart_concat changes rfl, lastSet_concat]
      by_cases hclock : other = clock
      · subst hclock
        rw [ticksSince_concat_set]
        simp [timer, setting?]
      · have hnone : setting? clock (.set other v) = none := if_neg hclock
        rw [ticksSince_concat clock _ hnone, hnone]
        simpa [timer, hclock] using ih
    | tick =>
      have hnone : setting? clock .tick = none := rfl
      rw [sinceRestart_concat changes rfl, lastSet_concat, ticksSince_concat clock _ hnone, hnone,
        timer, Machine.toNat_countdown, ih]
      -- naturals stop at 0 as timers do, so one tick more takes off one more
      simp only [Option.getD_none, if_true]
      omega
    | key number held =>
      have hnone : setting? clock (.key number held) = none := rfl
      rw [sinceRestart_concat changes rfl, lastSet_concat, ticksSince_concat clock _ hnone, hnone]
      simpa [timer] using ih

/-- What is left of a latch: the last event of its key decides. -/
theorem latch_changes (k : Fin 16) (changes : List Change) :
    changes.foldl (latch k) false = true ↔ lastMove k (sinceRestart changes) = some true := by
  induction changes using List.reverseRecOn with
  | nil => simp [sinceRestart, lastMove]
  | append_singleton changes c ih =>
    rw [List.foldl_concat]
    cases c with
    | restart => rw [sinceRestart_restart]; simp [latch, lastMove]
    | set other v | tick =>
      rw [sinceRestart_concat changes rfl, lastMove_concat]
      simpa [latch, movement?] using ih
    | key number held =>
      rw [sinceRestart_concat changes rfl, lastMove_concat]
      by_cases hk : number.toNat = k
      · simp [latch, movement?, hk]
      · simpa [latch, movement?, hk] using ih

end Change

/-! ## Section 2: One operation -/

/-- The change that an instruction makes: two of them set a timer to a register. -/
def Opcode.change? (m : Machine) : Opcode → Option Change
  | .setDelay x => some (.set .delay (m.register x))
  | .setSound x => some (.set .sound (m.register x))
  | _ => none

namespace Machine

variable {m after : Machine}

theorem timer_fresh (ram : Ram) (clock : Clock) :
    ({ fresh with ram } : Machine).timer clock = 0 := by
  cases clock <;> rfl

theorem timer_tick (m : Machine) (clock : Clock) :
    m.tick.timer clock = Change.tick.timer clock (m.timer clock) := by
  cases clock <;> rfl

/-- A machine that has the timers of another. -/
theorem timer_of_graft (h : after.graft m [.delay, .sound] = after) (clock : Clock) :
    after.timer clock = m.timer clock := by
  rw [← h]
  cases clock <;> rfl

/-- An instruction does to a timer what its change says. -/
theorem execute_timer {byte : UInt8} {op : Opcode} (h : m.execute byte op = .ok after)
    (clock : Clock) :
    after.timer clock = (op.change? m).toList.foldl (Change.timer clock) (m.timer clock) := by
  cases op with
  | setDelay x | setSound x =>
    cases h
    cases clock <;> rfl
  | loadDelay x =>
    -- this one reads a timer, so it has one in its footprint
    cases h
    cases clock <;> rfl
  | _ =>
    have hgraft := graft_of_execute_of_disjoint [.delay, .sound] h (by simp [Opcode.footprint])
    exact timer_of_graft hgraft clock

/-- No instruction changes a latch, whatever it does to a timer. -/
theorem latch_change? (m : Machine) (op : Opcode) (k : Fin 16) (held : Bool) :
    (op.change? m).toList.foldl (Change.latch k) held = held := by
  cases op <;> rfl

end Machine

namespace Interpreter

variable {σ : Type}

/-- The change that an operation makes, by what it answers: a fault changes nothing. -/
def change? (i : Interpreter σ) (operation : Operation) :
    Except Fault (Option Nat) → Option Change
  | .error _ => none
  | .ok _ =>
    match operation with
    | .load _ => some .restart
    | .tick => some .tick
    | .keyDown key => some (.key key true)
    | .keyUp key => some (.key key false)
    | .step | .execute _ => (attempted? i operation).bind (Opcode.change? i.machine)

/-- The registers are read before the program counter or after it has moved, which is the same. -/
theorem change?_executed {i : Interpreter σ} {operation : Operation} {op : Opcode}
    {size : Option Nat} (hop : attempted? i operation = some op) :
    change? i operation (.ok size) = op.change? (i.atExecution operation).machine := by
  cases operation with
  | step =>
    simp only [change?, hop, Option.bind_some]
    cases op <;> rfl
  | execute other =>
    cases hop
    rfl
  | load | tick | keyDown | keyUp => cases hop

theorem timer_atExecution (i : Interpreter σ) (operation : Operation) (clock : Clock) :
    (i.atExecution operation).machine.timer clock = i.machine.timer clock := by
  cases operation <;> cases clock <;> rfl

theorem register_atExecution (i : Interpreter σ) (operation : Operation) (x : UInt8) :
    (i.atExecution operation).machine.register x = i.machine.register x := by
  cases operation <;> rfl

variable [ByteSource σ] {i j : Interpreter σ} {operation : Operation}
  {result : Except Fault (Option Nat)}

/-- Every operation does to a timer what its change says. -/
theorem Outcome.timer (ho : Outcome i operation result j) (clock : Clock) :
    j.machine.timer clock =
      (change? i operation result).toList.foldl (Change.timer clock) (i.machine.timer clock) := by
  cases ho with
  | loaded => exact Machine.timer_fresh _ clock
  | notLoaded | notFetched | noKeyDown | noKeyUp => rfl
  | parked hparked => simp [change?, attempted?, hparked]
  | executed hop hexecute =>
    rw [change?_executed hop, Machine.execute_timer hexecute, timer_atExecution]
  | refused => exact timer_atExecution i operation clock
  | ticked => exact Machine.timer_tick i.machine clock
  | keyWentDown hdown =>
    have hgraft := Machine.graft_of_keyDown [.delay, .sound] hdown
      (by decide) (by decide) (by decide)
    exact Machine.timer_of_graft hgraft clock
  | keyWentUp hup =>
    have hgraft := Machine.graft_of_keyUp [.delay, .sound] hup (by decide)
    exact Machine.timer_of_graft hgraft clock

/-- Every operation does to a latch what its change says. -/
theorem Outcome.latched (ho : Outcome i operation result j) (k : Fin 16) :
    j.machine.keys.get k =
      (change? i operation result).toList.foldl (Change.latch k) (i.machine.keys.get k) := by
  cases ho with
  | loaded => exact Vector.getElem_replicate k.isLt
  | notLoaded | notFetched | ticked | noKeyDown | noKeyUp => rfl
  | parked hparked => simp [change?, attempted?, hparked]
  | executed hop hexecute =>
    rw [change?_executed hop, Machine.latch_change?, Machine.execute_keys hexecute,
      keys_atExecution]
  | refused => exact congrArg (·.get k) (keys_atExecution i operation)
  | keyWentDown hdown =>
    obtain ⟨hvalid, rfl⟩ := Machine.keyDown_ok_iff.mp hdown
    show (i.machine.pressed _ _).keys.get k = _
    rw [Machine.pressed_keys, Machine.keys_setKey]
    rfl
  | keyWentUp hup =>
    obtain ⟨hvalid, rfl⟩ := Machine.keyUp_ok_iff.mp hup
    show (i.machine.setKey _ false).keys.get k = _
    rw [Machine.keys_setKey]
    rfl

/-! ## Section 3: Histories -/

/-- The changes of a history, in order. -/
def changes : List Operation → Interpreter σ → List Change
  | [], _ => []
  | operation :: later, i =>
    let turn := perform operation i
    (change? i operation turn.result).toList ++ changes later turn.state

theorem timer_run (history : List Operation) (i : Interpreter σ) (clock : Clock) :
    (run history i).machine.timer clock =
      (changes history i).foldl (Change.timer clock) (i.machine.timer clock) := by
  induction history generalizing i with
  | nil => rfl
  | cons operation later ih =>
    rw [run_cons, ih, (perform_outcome i operation).timer clock, changes, List.foldl_append]

theorem keys_run (history : List Operation) (i : Interpreter σ) (k : Fin 16) :
    (run history i).machine.keys.get k =
      (changes history i).foldl (Change.latch k) (i.machine.keys.get k) := by
  induction history generalizing i with
  | nil => rfl
  | cons operation later ih =>
    rw [run_cons, ih, (perform_outcome i operation).latched k, changes, List.foldl_append]

/-- What a timer stands at in the end. -/
theorem toNat_timer_run (source : σ) (history : List Operation) (clock : Clock) :
    let recent := Change.sinceRestart (changes history (fresh source))
    ((run history (fresh source)).machine.timer clock).toNat =
      (Change.lastSet clock recent).toNat - Change.ticksSince clock recent := by
  have hfresh : (fresh source).machine.timer clock = 0 := Machine.timer_fresh _ clock
  intro recent
  rw [timer_run, hfresh]
  exact Change.toNat_timer_changes clock _

/-- Which latches are closed in the end. -/
theorem latch_run_iff (source : σ) (history : List Operation) (k : Fin 16) :
    (run history (fresh source)).machine.keys.get k = true ↔
      Change.lastMove k (Change.sinceRestart (changes history (fresh source))) = some true := by
  have hfresh : (fresh source).machine.keys.get k = false := Vector.getElem_replicate k.isLt
  rw [keys_run, hfresh]
  exact Change.latch_changes k _

/-! ## Section 4: The instructions that read them -/

/-- The operation succeeds and skips the next instruction if the condition holds, and otherwise
    leaves the machine as the fetch left it. -/
structure SkipsIf (i : Interpreter σ) (operation : Operation) (condition : Prop) : Prop where
  answers : (perform operation i).result = .ok none
  skips : condition → (perform operation i).state.machine =
    { (i.atExecution operation).machine with pc := (i.atExecution operation).machine.pc + 2 }
  stays : ¬ condition → (perform operation i).state.machine = (i.atExecution operation).machine

/-- The delay timer goes into a register as it stands. -/
theorem loadDelay_reads {x : UInt8} (hop : attempted? i operation = some (.loadDelay x)) :
    (perform operation i).result = .ok none ∧
      (perform operation i).state.machine.register x = i.machine.timer .delay := by
  obtain ⟨hresult, hstate⟩ := (perform_outcome i operation).of_execute hop rfl
  refine ⟨hresult, ?_⟩
  rw [hstate]
  show ((i.atExecution operation).machine.setRegister x _).register x = _
  rw [Machine.register_setRegister_self]
  exact timer_atExecution i operation .delay

/-- What an instruction is executed as that skips on the latch of a key. -/
theorem skipsIf_of_execute {op : Opcode} {condition : Bool}
    (hop : attempted? i operation = some op)
    (h : (i.atExecution operation).machine.execute (ByteSource.next i.source).1 op =
      .ok ((i.atExecution operation).machine.skipIf condition)) :
    SkipsIf i operation (condition = true) := by
  obtain ⟨hresult, hstate⟩ := (perform_outcome i operation).of_execute hop h
  refine ⟨hresult, ?_, ?_⟩
  · rintro rfl
    rw [hstate]
    rfl
  · intro hfalse
    rw [Bool.not_eq_true] at hfalse
    subst hfalse
    rw [hstate]
    rfl

theorem skipKey_reads (operation : Operation) {x : UInt8} {k : Fin 16}
    (hkey : (i.machine.register x).toNat = k) :
    (attempted? i operation = some (.skipKeyPressed x) →
      SkipsIf i operation (i.machine.keys.get k = true)) ∧
    (attempted? i operation = some (.skipKeyNotPressed x) →
      SkipsIf i operation ((!i.machine.keys.get k) = true)) := by
  have hnumber : Machine.key ((i.atExecution operation).machine.register x) = .ok k := by
    rw [register_atExecution, Machine.key_of_lt (hkey ▸ k.isLt)]
    exact congrArg Except.ok (Fin.ext hkey)
  rw [← keys_atExecution i operation]
  constructor
  · intro hop
    apply skipsIf_of_execute hop
    simp only [Machine.execute, hnumber]
    rfl
  · intro hop
    apply skipsIf_of_execute hop
    simp only [Machine.execute, hnumber]
    rfl

/-! ## Section 5: The main result -/

/-- After any history a timer stands at the value that it was last set to since the last load, less
    the ticks since then, and not below 0; a timer that was not set stands at 0. The buzzer is to be
    heard exactly as long as the ticks since the sound timer was set are fewer than its value. The
    latch of a key is closed exactly if the last thing that happened to the key since the last load
    was that it went down. This is what the program finds: the instruction that reads the delay
    timer gets just that value, and those that skip on a key go by just that latch. -/
theorem timers_and_latches_are_their_history (source : σ) (history : List Operation) :
    let i := run history (fresh source)
    let recent := Change.sinceRestart (changes history (fresh source))
    (∀ clock, (i.machine.timer clock).toNat =
      (Change.lastSet clock recent).toNat - Change.ticksSince clock recent) ∧
    (i.machine.soundActive = true ↔
      Change.ticksSince .sound recent < (Change.lastSet .sound recent).toNat) ∧
    (∀ k : Fin 16, i.machine.keys.get k = true ↔ Change.lastMove k recent = some true) ∧
    (∀ operation x, attempted? i operation = some (.loadDelay x) →
      (perform operation i).result = .ok none ∧
      ((perform operation i).state.machine.register x).toNat =
        (Change.lastSet .delay recent).toNat - Change.ticksSince .delay recent) ∧
    ∀ operation x (k : Fin 16), (i.machine.register x).toNat = k →
      (attempted? i operation = some (.skipKeyPressed x) →
        SkipsIf i operation (Change.lastMove k recent = some true)) ∧
      (attempted? i operation = some (.skipKeyNotPressed x) →
        SkipsIf i operation (¬ Change.lastMove k recent = some true)) := by
  intro i recent
  have htimer : ∀ clock, (i.machine.timer clock).toNat =
      (Change.lastSet clock recent).toNat - Change.ticksSince clock recent :=
    toNat_timer_run source history
  have hlatch : ∀ k : Fin 16, i.machine.keys.get k = true ↔
      Change.lastMove k recent = some true := latch_run_iff source history
  refine ⟨htimer, ?_, hlatch, ?_, ?_⟩
  · -- the buzzer is to be heard while the sound timer is above 0
    have hsound := htimer .sound
    have hactive : i.machine.soundActive = true ↔ 0 < (i.machine.timer .sound).toNat := by
      show decide (i.machine.sound > 0) = true ↔ 0 < i.machine.sound.toNat
      rw [decide_eq_true_iff, gt_iff_lt, UInt8.lt_iff_toNat_lt, UInt8.toNat_zero]
    rw [hactive, hsound]
    omega
  · intro operation x hop
    obtain ⟨hresult, hregister⟩ := loadDelay_reads hop
    rw [hregister]
    exact ⟨hresult, htimer .delay⟩
  · intro operation x k hkey
    obtain ⟨hpressed, hnotPressed⟩ := skipKey_reads operation hkey
    rw [← hlatch k]
    refine ⟨hpressed, ?_⟩
    intro hop
    simpa using hnotPressed hop

/-- A sound timer that a load turns off, a delay timer set to 3 with one tick before and two after,
    and a key that stays down through a load that fails and a key that there is none of. -/
theorem timers_after_a_reload :
    let history : List Operation :=
      [.execute (.loadImm 0x12 3), .execute (.setSound 2), .keyDown 9, .load (.whole []),
        .execute (.loadImm 0x12 3), .tick, .execute (.setDelay 2), .keyUp 7, .keyDown 7,
        .load (.broken [] "gone"), .tick, .keyUp 200, .execute (.loadImm 4 7), .tick]
    let i := run history (fresh (⟨1, 0⟩ : Stride))
    i.machine.delay.toNat = 1 ∧ ¬ i.machine.soundActive = true ∧
    i.machine.keys.get 7 = true ∧ ¬ i.machine.keys.get 9 = true ∧
    ((perform (.execute (.loadDelay 5)) i).state.machine.register 5).toNat = 1 ∧
    (perform (.execute (.skipKeyNotPressed 4)) i).state.machine = i.machine := by
  intro history i
  obtain ⟨htimer, hsound, hlatch, hread, hskip⟩ :=
    timers_and_latches_are_their_history (⟨1, 0⟩ : Stride) history
  have hrecent : Change.sinceRestart (changes history (fresh (⟨1, 0⟩ : Stride))) =
      [.tick, .set .delay 3, .key 7 false, .key 7 true, .tick, .tick] := by decide
  rw [hrecent] at htimer hsound hlatch hread hskip
  obtain ⟨-, hdelay⟩ := hread (.execute (.loadDelay 5)) 5 rfl
  obtain ⟨-, hnotPressed⟩ := hskip (.execute (.skipKeyNotPressed 4)) 4 7 rfl
  refine ⟨htimer .delay, ?_, (hlatch 7).mpr rfl, ?_, hdelay, ?_⟩
  · rw [hsound]
    decide
  · rw [hlatch]
    decide
  · exact (hnotPressed rfl).stays (by decide)

end Interpreter

end Chip8
