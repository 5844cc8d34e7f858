import Chip8.Launch
import Chip8.Proofs.Interpreter.Refusal
import Chip8.Proofs.Interpreter.Timers
import Chip8.Proofs.Session.Buzzer
import Chip8.Proofs.Text.Numeral

/-! # The address in a report

    When a step ends a run, the report gives the program counter that the step has left behind. That
    is the address of the failing word if there was no instruction at it. An instruction that fails
    has moved the program counter past its word before, and is reported at the word after it.

    From the end of a run back to the word: the loop ends with an advance (`run_endsAt`), the
    advance in its work, the work with a step, and all steps before that one succeed. -/

namespace Chip8

/-! ## Section 1: The step that fails -/

namespace Interpreter

variable {σ : Type} [ByteSource σ]

/-- Of up to `count` steps from `start` on one fails, with this fault, and `i` is the interpreter in
    front of it. -/
structure FailsAt (count : Nat) (start i : Interpreter σ) (fault : Fault) : Prop where
  /-- All steps before it succeed. -/
  before : ∃ done < count, (steps done start).2.result = .ok () ∧ (steps done start).2.state = i
  fails : (step i).result = .error fault

theorem failsAt_of_steps {count : Nat} {start : Interpreter σ} {fault : Fault}
    (h : (steps count start).2.result = .error fault) :
    ∃ i, FailsAt count start i fault ∧ (steps count start).2.state = (step i).state := by
  -- either the first step fails, or it is one more before the step that fails among the others
  induction count generalizing start with
  | zero => cases h
  | succ count ih =>
    rw [steps] at h ⊢
    cases hfirst : (step start).result with
    | error other =>
      simp only [hfirst] at h ⊢
      cases h
      exact ⟨start, ⟨⟨0, Nat.succ_pos count, rfl, rfl⟩, hfirst⟩, rfl⟩
    | ok _ =>
      simp only [hfirst] at h ⊢
      obtain ⟨i, ⟨⟨done, hdone, hresult, hstate⟩, hfails⟩, hlast⟩ := ih h
      refine ⟨i, ⟨⟨done + 1, Nat.succ_lt_succ hdone, ?_, ?_⟩, hfails⟩, hlast⟩
      · rw [steps]
        simp only [hfirst, hresult]
      · rw [steps]
        simp only [hfirst, hstate]

/-- Where the step after `done` others fails, no more than these succeed. -/
theorem le_of_step_error {count done : Nat} {start i : Interpreter σ} {fault : Fault}
    (h : (step i).result = .error fault) (hok : (steps done start).2.result = .ok ())
    (hstate : (steps done start).2.state = i)
    (hcount : (steps count start).2.result = .ok ()) : count ≤ done := by
  have hlast : (steps (done + 1) start).2.result = .error fault := by
    rw [(steps_add hok 1).2.2.1, hstate, steps]
    simp only [h]
  refine Nat.le_of_not_lt fun hlt => ?_
  rw [← Nat.add_sub_of_le (Nat.succ_le_of_lt hlt), steps_of_error hlast, hlast] at hcount
  cases hcount

/-- There is one step at the most that fails. -/
theorem FailsAt.unique {count count' : Nat} {start i j : Interpreter σ} {fault fault' : Fault}
    (h : FailsAt count start i fault) (h' : FailsAt count' start j fault') :
    i = j ∧ fault = fault' := by
  obtain ⟨done, -, hok, hstate⟩ := h.before
  obtain ⟨done', -, hok', hstate'⟩ := h'.before
  have hdone : done = done' := Nat.le_antisymm
    (le_of_step_error h'.fails hok' hstate' hok) (le_of_step_error h.fails hok hstate hok')
  have hij : i = j := by rw [← hstate, ← hstate', hdone]
  refine ⟨hij, ?_⟩
  have hfails := h.fails
  rw [hij, h'.fails] at hfails
  exact (Except.error.inj hfails).symm

/-- The program counter after a step of this machine that fails. -/
def pcAfterFault (m : Machine) : UInt16 :=
  match m.fetch with
  | .error _ => m.pc
  | .ok _ => m.pc + 2

theorem pc_of_step_error {i : Interpreter σ} {fault : Fault} (h : (step i).result = .error fault) :
    (step i).state.machine.pc = pcAfterFault i.machine := by
  -- while a machine waits for a key its steps succeed
  have hmode : i.machine.mode = .running := by
    cases hmode : i.machine.mode with
    | running => rfl
    | awaitingKey r =>
      rw [step, hmode] at h
      cases h
  cases hfetch : i.machine.fetch with
  | error other => rw [(Stuck.mk hmode hfetch).step.2, pcAfterFault, hfetch]
  | ok fetched =>
    obtain ⟨word, op⟩ := fetched
    obtain ⟨hresult, hstate⟩ := step_of_fetch hmode hfetch
    rw [hresult] at h
    rw [hstate, execute_state_of_error h, pcAfterFault, hfetch]
    rfl

end Interpreter

/-! ## Section 2: The report -/

/-- Reports about different addresses are different. -/
theorem Launch.failed_inj {path : List UInt8} {pc pc' : UInt16} {fault : Fault} :
    failed path pc fault = failed path pc' fault ↔ pc = pc' := by
  refine ⟨fun h => ?_, fun h => h ▸ rfl⟩
  have hreport := congrArg Outcome.report h
  have hnumeral : Text.hex 3 pc.toNat = Text.hex 3 pc'.toNat := by
    simpa [failed, failure, String.append_assoc] using hreport
  exact UInt16.toNat_inj.1 (Text.hex_inj.1 hnumeral)

/-! ## Section 3: The run that it ends -/

namespace Session

open Chip8.Action Chip8.Interpreter

variable {σ δ ι β : Type}

/-- An advance ends with a step that fails, with this fault, and `i` is the interpreter in front of
    it: events are applied, ticks are done, and the steps before it have succeeded. -/
def StepFails [ByteSource σ] [Input ι] (now elapsed : Nat) (s : Session σ δ ι β)
    (i : Interpreter σ) (fault : Fault) : Prop :=
  let heard := (hear now s).state
  let ticksDue := Cadence.target elapsed heard.rates.timer - heard.counts.timer
  let stepsDue := Cadence.target elapsed heard.rates.cpu - heard.counts.cpu
  FailsAt stepsDue (ticks ticksDue heard.interpreter).state i fault

theorem silence_interpreter [Buzzer β] (s : Session σ δ ι β) :
    (silence s).state.interpreter = s.interpreter := by
  rw [silence_eq]
  split <;> rfl

section

variable [ByteSource σ] [Display δ] [Input ι] [Buzzer β]

theorem stepFails_of_reached {now elapsed : Nat} {s : Session σ δ ι β}
    (h : reached now elapsed s = .work) :
    ∃ i fault, StepFails now elapsed s i fault ∧ (advance now elapsed s).result = .error fault ∧
      (advance now elapsed s).state.interpreter = (step i).state := by
  -- only one course ends in the work
  have hcourse := advance_course now elapsed s
  rw [h] at hcourse
  generalize advance now elapsed s = turn at hcourse ⊢
  cases hcourse with
  | @stepFailed s₁ s₂ told done fault hheard hworked =>
    rw [work_eq] at hworked
    obtain ⟨hstate, hresult, -⟩ := Turn.mk.inj hworked
    obtain ⟨i, hfails, hlast⟩ := failsAt_of_steps hresult
    refine ⟨i, fault, ?_, rfl, ?_⟩
    · simp only [StepFails, hheard]
      exact hfails
    · rw [← hstate]
      exact hlast

/-- A run that ends with a step that fails is reported at the address of the failing word exactly if
    there was no instruction at it: no word, or one that does not decode. If there was one, the
    address in the report is that of the word after it. -/
theorem report_names_failing_word_iff {readings : List Nat} {s : Session σ δ ι β}
    {turn : Turn (Session σ δ ι β) Unit} (hrun : run readings s = some turn) :
    ∃ earlier reading later, readings = earlier ++ reading :: later ∧
      EndsAt earlier reading s turn ∧
      let last := after (onTheClock earlier) s
      (reached reading reading last = .work →
        (∃ i fault, StepFails reading reading last i fault) ∧
        ∀ i fault, StepFails reading reading last i fault → turn.result = .error fault ∧
          ∀ path,
            let outcome := Launch.ended path turn.state.interpreter.machine turn.result
            (outcome = Launch.failed path i.machine.pc fault ↔
              ∃ refusal, i.machine.fetch = .error refusal) ∧
            ((∃ fetched, i.machine.fetch = .ok fetched) →
              outcome = Launch.failed path (i.machine.pc + 2) fault)) := by
  obtain ⟨earlier, reading, later, hreadings, hends⟩ := run_endsAt hrun
  refine ⟨earlier, reading, later, hreadings, hends, fun hreached => ?_⟩
  obtain ⟨i, fault, hfails, hadvance, hstate⟩ := stepFails_of_reached hreached
  refine ⟨⟨i, fault, hfails⟩, fun j other hother => ?_⟩
  obtain ⟨rfl, rfl⟩ := FailsAt.unique hfails hother
  have hresult : turn.result = .error fault := by rw [hends.result, hadvance]; rfl
  refine ⟨hresult, fun path => ?_⟩
  -- turning the buzzer off, which is all that happens after the step, does not reach the machine
  have hended : Launch.ended path turn.state.interpreter.machine turn.result =
      Launch.failed path (pcAfterFault i.machine) fault := by
    rw [hresult, Launch.ended, hends.state, silence_interpreter, hstate,
      pc_of_step_error hfails.fails]
  simp only [hended, Launch.failed_inj]
  cases hfetch : i.machine.fetch with
  | error refusal => simp [pcAfterFault, hfetch]
  | ok fetched => simp [pcAfterFault, hfetch]

end

/-! ### A return with no call before it -/

/-- A program of this one instruction, in front of its first step. -/
def unmatched : Session Stride FrameKeeper Typist Mute :=
  Launch.session { rom := Options.ascii "prog.ch8", cpuHz := 100000 }
    (Interpreter.load (.whole [0x00, 0xee]) (fresh ⟨1, 0⟩)).state []

/-- Its first step ends the loop. -/
theorem unmatched_report :
    ∃ turn, run [pause] unmatched = some turn ∧ reached pause pause unmatched = .work ∧
      ∃ i fault, StepFails pause pause unmatched i fault ∧ turn.result = .error fault ∧
        ((∃ fetched, i.machine.fetch = .ok fetched) → ∀ path,
          Launch.ended path turn.state.interpreter.machine turn.result =
            Launch.failed path (i.machine.pc + 2) fault) := by
  have hsome : (run [pause] unmatched).isSome = true := by decide +kernel
  obtain ⟨turn, hturn⟩ := Option.isSome_iff_exists.mp hsome
  obtain ⟨earlier, reading, later, hreadings, -, hreport⟩ := report_names_failing_word_iff hturn
  obtain ⟨rfl, rfl⟩ : [] = earlier ∧ pause = reading := by
    cases earlier with
    | nil => exact ⟨rfl, (List.cons.inj hreadings).1⟩
    | cons first rest => simp at hreadings
  have hreached : reached pause pause unmatched = .work := by decide +kernel
  obtain ⟨⟨i, fault, hfails⟩, hreports⟩ := hreport hreached
  obtain ⟨hresult, hpath⟩ := hreports i fault hfails
  exact ⟨turn, hturn, hreached, i, fault, hfails, hresult, fun hfetch path => (hpath path).2 hfetch⟩

/-- The word is at 0x200, and the report says 0x202. -/
theorem unmatched_return_is_reported_late :
    let path := Options.ascii "prog.ch8"
    let outcome := (run (readings 2) unmatched).map fun turn =>
      Launch.ended path turn.state.interpreter.machine turn.result
    unmatched.interpreter.machine.pc = 0x200 ∧
    (step unmatched.interpreter).result = .error .stackUnderflow ∧
    outcome = some (Launch.failed path 0x202 .stackUnderflow) ∧
    outcome ≠ some (Launch.failed path 0x200 .stackUnderflow) := by
  intro path outcome
  have hrun : (run (readings 2) unmatched).map
      (fun turn => (turn.result, turn.state.interpreter.machine.pc)) =
        some (.error .stackUnderflow, 0x202) := by
    decide +kernel
  have houtcome : outcome = some (Launch.failed path 0x202 .stackUnderflow) := by
    obtain ⟨turn, hturn, hend⟩ := Option.map_eq_some_iff.mp hrun
    obtain ⟨hresult, hpc⟩ := Prod.mk.inj hend
    simp only [outcome, hturn, Option.map_some, hresult, Launch.ended, hpc]
  refine ⟨by decide +kernel, by decide +kernel, houtcome, ?_⟩
  rw [houtcome, ne_eq, Option.some_inj, Launch.failed_inj]
  decide

end Session

end Chip8
