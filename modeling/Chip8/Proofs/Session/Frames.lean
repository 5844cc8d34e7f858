import Chip8.Proofs.Session.Buzzer

/-! # A frame is drawn once and not given up

    A frame is due in an advance if the target of the frames is above their count, and then the
    display is asked once, no matter how many frames have been missed: with the picture as the steps
    have left it. Only a frame that was drawn brings the count up to the target. After one that was
    refused the advance is over, and since the count is what it was, the next advance that gets so
    far and for which a frame is due asks again.

    What an advance does about frames (`Framing`) is proved by cases on its course. Along a schedule
    the frames that were drawn are the journal of the display (`Filmed`): its count, its last frame,
    and the count of the session all follow from them. -/

namespace Chip8

open Chip8.Action

/-! ## Section 1: Displays that remember -/

/-- A display that counts the frames it has shown and keeps the last one. A frame that it refuses
    makes no difference to either. -/
class CountingDisplay (δ : Type) [Display δ] where
  frames : δ → Nat
  last : δ → Picture
  drawn (picture : Picture) (d : δ) : (Display.draw picture d).result = .ok () →
    frames (Display.draw picture d).state = frames d + 1 ∧
      last (Display.draw picture d).state = picture
  refused (picture : Picture) (d : δ) : (Display.draw picture d).result ≠ .ok () →
    frames (Display.draw picture d).state = frames d ∧
      last (Display.draw picture d).state = last d

instance : CountingDisplay FrameKeeper where
  frames := FrameKeeper.frames
  last := FrameKeeper.last
  drawn _ _ _ := ⟨rfl, rfl⟩
  refused _ _ h := absurd rfl h

instance {δ : Type} [Display δ] [CountingDisplay δ] : CountingDisplay (Unreliable δ) where
  frames d := CountingDisplay.frames d.device
  last d := CountingDisplay.last d.device
  drawn picture d := by
    have hdraw : Display.draw picture d =
        if d.refuses then d.refuse else d.pass (Display.draw picture) := rfl
    rw [hdraw]
    split
    · exact nofun
    · exact CountingDisplay.drawn picture d.device
  refused picture d := by
    have hdraw : Display.draw picture d =
        if d.refuses then d.refuse else d.pass (Display.draw picture) := rfl
    rw [hdraw]
    split
    · exact fun _ => ⟨rfl, rfl⟩
    · exact CountingDisplay.refused picture d.device

/-- The picture that was drawn, if the act is that one was. -/
def Act.picture? : Act → Option Picture
  | .drew picture => some picture
  | _ => none

/-- The pictures that were drawn according to a journal. -/
def pictures (acts : List Act) : List Picture := acts.filterMap Act.picture?

/-- All of them stand among the acts about frames. -/
theorem pictures_actsOf (acts : List Act) : pictures (actsOf .frame acts) = pictures acts := by
  rw [pictures, actsOf, List.filterMap_filter]
  refine congrArg (acts.filterMap ·) (funext fun act => ?_)
  cases act <;> rfl

namespace Session

open Cadence

variable {σ δ ι β : Type}

/-! ## Section 2: One advance -/

/-- Nothing has been done about frames. -/
structure Undrawn (s s' : Session σ δ ι β) (acts : List Act) : Prop where
  calls : actsOf .frame acts = []
  display : s'.display = s.display
  count : s'.counts.frame = s.counts.frame

theorem Undrawn.append {s s' s'' : Session σ δ ι β} {acts more : List Act}
    (h : Undrawn s s' acts) (h' : Undrawn s' s'' more) : Undrawn s s'' (acts ++ more) where
  calls := by rw [actsOf_append, h.calls, h'.calls, List.append_nil]
  display := h'.display.trans h.display
  count := h'.count.trans h.count

theorem undrawn_hear [Input ι] [DiscreetInput ι] {now : Nat} {s : Session σ δ ι β}
    {turn : Turn (Session σ δ ι β) Flow} (h : hear now s = turn) :
    Undrawn s turn.state turn.acts where
  calls := actsOf_of_suits ((enters_hear now).mem h) nofun
  display := (keeps_hear Session.display (fun _ _ _ => rfl) now).eq h
  count := (keeps_hear (·.counts.frame) (fun _ _ _ => rfl) now).eq h

theorem undrawn_work [ByteSource σ] {elapsed : Nat} {s : Session σ δ ι β}
    {turn : Turn (Session σ δ ι β) Unit} (h : work elapsed s = turn) :
    Undrawn s turn.state turn.acts where
  calls := actsOf_of_suits ((enters_work elapsed).mem h) nofun
  display := (keeps_work Session.display (fun _ _ _ _ => rfl) elapsed).eq h
  count := (keeps_work (·.counts.frame) (fun _ _ _ _ => rfl) elapsed).eq h

theorem undrawn_matchBuzzer [Buzzer β] [DiscreetBuzzer β] {s : Session σ δ ι β}
    {turn : Turn (Session σ δ ι β) Unit} (h : matchBuzzer s = turn) :
    Undrawn s turn.state turn.acts where
  calls := actsOf_of_suits (enters_matchBuzzer.mem h) nofun
  display := (keeps_matchBuzzer Session.display fun _ _ => rfl).eq h
  count := (keeps_matchBuzzer (·.counts.frame) fun _ _ => rfl).eq h

/-- What comes of the frame, with this target and this picture to be drawn. -/
inductive Framed [Display δ] (due : Nat) (picture : Picture) (s s' : Session σ δ ι β)
    (acts : List Act) : Except Fault Unit → Prop
  /-- Nothing, if none is due. -/
  | early (hdue : due ≤ s.counts.frame) (h : Undrawn s s' acts) :
    Framed due picture s s' acts (.ok ())
  /-- If one is due the display is asked once, and it may draw -/
  | drawn (hdue : s.counts.frame < due)
      (hanswer : (Display.draw picture s.display).result = .ok ())
      (hcalls : actsOf .frame acts = [.drew picture])
      (hdisplay : s'.display = (Display.draw picture s.display).state)
      (hcount : s'.counts.frame = due) :
    Framed due picture s s' acts (.ok ())
  /-- or refuse. -/
  | refused {fault : Fault} (hdue : s.counts.frame < due)
      (hanswer : (Display.draw picture s.display).result = .error fault)
      (hcalls : actsOf .frame acts = [.drawRefused])
      (hdisplay : s'.display = (Display.draw picture s.display).state)
      (hcount : s'.counts.frame = s.counts.frame) :
    Framed due picture s s' acts (.error fault)

section

variable [Display δ] {due : Nat} {picture : Picture} {s s' s'' : Session σ δ ι β}
  {acts more : List Act} {result : Except Fault Unit}

theorem framed_drawUpTo [DiscreetDisplay δ] (due : Nat) (s : Session σ δ ι β) :
    Framed due s.interpreter.machine.picture s (drawUpTo due s).state (drawUpTo due s).acts
      (drawUpTo due s).result := by
  have hnotes := actsOf_of_notes
    (DiscreetDisplay.draw s.interpreter.machine.picture s.display) .frame
  unfold drawUpTo
  dsimp only
  split
  case isTrue hdue =>
    -- the acts of the display itself are notes, so the one act that is left is the session's
    split
    case h_1 fault hanswer =>
      refine .refused hdue hanswer ?_ rfl rfl
      rw [actsOf_append, hnotes]
      rfl
    case h_2 hanswer =>
      refine .drawn hdue hanswer ?_ rfl rfl
      rw [actsOf_append, hnotes]
      rfl
  case isFalse hdue => exact .early (Nat.le_of_not_lt hdue) ⟨rfl, rfl, rfl⟩

/-- What was done before makes no difference, if it was nothing about frames, -/
theorem Undrawn.framed (h : Undrawn s s' acts)
    (h' : Framed due picture s' s'' more result) :
    Framed due picture s s'' (acts ++ more) result := by
  cases h' with
  | early hdue hnone => exact .early (h.count ▸ hdue) (h.append hnone)
  | drawn hdue hanswer hcalls hdisplay hcount =>
    rw [h.count] at hdue
    rw [h.display] at hanswer hdisplay
    refine .drawn hdue hanswer ?_ hdisplay hcount
    rw [actsOf_append, h.calls, hcalls, List.nil_append]
  | refused hdue hanswer hcalls hdisplay hcount =>
    rw [h.count] at hdue hcount
    rw [h.display] at hanswer hdisplay
    refine .refused hdue hanswer ?_ hdisplay hcount
    rw [actsOf_append, h.calls, hcalls, List.nil_append]

/-- and neither does what is done after it. -/
theorem Framed.append (h : Framed due picture s s' acts result)
    (h' : Undrawn s' s'' more) : Framed due picture s s'' (acts ++ more) result := by
  cases h with
  | early hdue hnone => exact .early hdue (hnone.append h')
  | drawn hdue hanswer hcalls hdisplay hcount =>
    refine .drawn hdue hanswer ?_ (h'.display.trans hdisplay) (h'.count.trans hcount)
    rw [actsOf_append, hcalls, h'.calls, List.append_nil]
  | refused hdue hanswer hcalls hdisplay hcount =>
    refine .refused hdue hanswer ?_ (h'.display.trans hdisplay) (h'.count.trans hcount)
    rw [actsOf_append, hcalls, h'.calls, List.append_nil]

/-- A frame that is not refused brings the count up to its target. -/
theorem Framed.count (h : Framed due picture s s' acts (.ok ())) :
    s'.counts.frame = max s.counts.frame due := by
  cases h with
  | early hdue hnone => rw [hnone.count, Nat.max_eq_left hdue]
  | drawn hdue _ _ _ hcount => rw [hcount, Nat.max_eq_right (Nat.le_of_lt hdue)]

end

/-- The session of an advance once its events have been applied and its work is done. -/
def worked [ByteSource σ] [Input ι] (now elapsed : Nat) (s : Session σ δ ι β) : Session σ δ ι β :=
  (work elapsed (hear now s).state).state

/-- What an advance that gets to `phase` and no further does about frames. -/
inductive Framing [Display δ] (due : Nat) (picture : Picture) (s : Session σ δ ι β) :
    Phase → Turn (Session σ δ ι β) Flow → Prop
  /-- Nothing, if it does not get through its work. -/
  | unreached {phase turn} (hphase : phase = .events ∨ phase = .work)
      (h : Undrawn s turn.state turn.acts) : Framing due picture s phase turn
  /-- A frame that is refused ends it, and the buzzer is not called. -/
  | refused {turn fault} (hresult : turn.result = .error fault)
      (h : Framed due picture s turn.state turn.acts (.error fault))
      (hbuzzer : turn.state.buzzer = s.buzzer) (hsilent : buzzerCalls turn.acts = []) :
    Framing due picture s .frame turn
  | finished {turn} (h : Framed due picture s turn.state turn.acts (.ok ())) :
    Framing due picture s .buzzer turn

section

variable [ByteSource σ] [Display δ] [Input ι] [Buzzer β]
  [DiscreetDisplay δ] [DiscreetInput ι] [DiscreetBuzzer β]

theorem Course.framing {now elapsed : Nat} {s : Session σ δ ι β} {phase : Phase}
    {turn : Turn (Session σ δ ι β) Flow} (h : Course now elapsed s phase turn) :
    Framing (target elapsed s.rates.frame) (worked now elapsed s).interpreter.machine.picture s
      phase turn := by
  cases h with
  | stopped hstop => exact .unreached (.inl rfl) (undrawn_hear rfl)
  | stepFailed hheard hworked =>
    exact .unreached (.inr rfl) ((undrawn_hear hheard).append (undrawn_work hworked))
  | @drawRefused s₁ s₂ s₃ told done shown fault hheard hworked hdrawn =>
    have hlast : worked now elapsed s = s₂ := by simp only [worked, hheard, hworked]
    have hframed := framed_drawUpTo (target elapsed s.rates.frame) s₂
    rw [hdrawn, ← hlast] at hframed
    have hbefore := (undrawn_hear hheard).append (undrawn_work hworked)
    rw [← hlast] at hbefore
    have huncalled :=
      (uncalled_hear hheard).append ((uncalled_work hworked).append (uncalled_drawUpTo hdrawn))
    refine .refused rfl ?_ huncalled.buzzer huncalled.calls
    rw [← List.append_assoc]
    exact hbefore.framed hframed
  | @finished s₁ s₂ s₃ s₄ told done shown sounded hheard hworked hdrawn hmatched =>
    have hlast : worked now elapsed s = s₂ := by simp only [worked, hheard, hworked]
    have hframed := framed_drawUpTo (target elapsed s.rates.frame) s₂
    rw [hdrawn, ← hlast] at hframed
    have hbefore := (undrawn_hear hheard).append (undrawn_work hworked)
    rw [← hlast] at hbefore
    refine .finished ?_
    rw [← List.append_assoc, ← List.append_assoc]
    exact (hbefore.framed hframed).append (undrawn_matchBuzzer hmatched)

theorem advance_framing (now elapsed : Nat) (s : Session σ δ ι β) :
    Framing (target elapsed s.rates.frame) (worked now elapsed s).interpreter.machine.picture s
      (reached now elapsed s) (advance now elapsed s) :=
  (advance_course now elapsed s).framing

end

/-! ### What follows for the display -/

section

variable [Display δ] {due : Nat} {picture : Picture} {s s' : Session σ δ ι β} {acts : List Act}
  {phase : Phase} {turn : Turn (Session σ δ ι β) Flow}

/-- When a frame is due, the display is asked once, whatever it answers. -/
theorem Framed.asked {result : Except Fault Unit} (h : Framed due picture s s' acts result)
    (hdue : s.counts.frame < due) :
    (actsOf .frame acts).length = 1 ∧
      s'.display = (Display.draw picture s.display).state := by
  cases h with
  | early hearly => omega
  | drawn _ _ hcalls hdisplay => exact ⟨by rw [hcalls]; rfl, hdisplay⟩
  | refused _ _ hcalls hdisplay => exact ⟨by rw [hcalls]; rfl, hdisplay⟩

theorem Framing.undrawn (h : Framing due picture s phase turn)
    (hphase : phase = .events ∨ phase = .work) : Undrawn s turn.state turn.acts := by
  cases h with
  | unreached _ hnone => exact hnone
  | refused => simp at hphase
  | finished => simp at hphase

/-- An advance that gets through its work comes to the frame. -/
theorem Framing.framed (h : Framing due picture s phase turn)
    (hphase : phase = .frame ∨ phase = .buzzer) :
    ∃ result, Framed due picture s turn.state turn.acts result := by
  cases h with
  | unreached hbefore => exact absurd hbefore (not_or.mpr (Phase.past_work_iff.mp hphase))
  | refused _ hframed => exact ⟨_, hframed⟩
  | finished hframed => exact ⟨_, hframed⟩

/-- Where no frame is due it goes on to its end, -/
theorem Framing.of_early (h : Framing due picture s phase turn)
    (hphase : phase = .frame ∨ phase = .buzzer) (hearly : due ≤ s.counts.frame) :
    phase = .buzzer ∧ Undrawn s turn.state turn.acts := by
  cases h with
  | unreached hbefore => exact absurd hbefore (not_or.mpr (Phase.past_work_iff.mp hphase))
  | refused _ hframed =>
    cases hframed with
    | refused hdue => omega
  | finished hframed =>
    cases hframed with
    | early _ hnone => exact ⟨rfl, hnone⟩
    | drawn hdue => omega

/-- and so it does where the frame is drawn. -/
theorem Framing.of_drawn (h : Framing due picture s phase turn)
    (hphase : phase = .frame ∨ phase = .buzzer) (hdue : s.counts.frame < due)
    (hanswer : (Display.draw picture s.display).result = .ok ()) :
    phase = .buzzer ∧ actsOf .frame turn.acts = [.drew picture] ∧
      turn.state.counts.frame = due := by
  cases h with
  | unreached hbefore => exact absurd hbefore (not_or.mpr (Phase.past_work_iff.mp hphase))
  | refused _ hframed =>
    cases hframed with
    | refused _ herror => cases hanswer.symm.trans herror
  | finished hframed =>
    cases hframed with
    | early hearly => omega
    | drawn _ _ hcalls _ hcount => exact ⟨rfl, hcalls, hcount⟩

/-- A frame that is refused ends it, and is as due as before. -/
theorem Framing.of_refused (h : Framing due picture s phase turn)
    (hphase : phase = .frame ∨ phase = .buzzer) (hdue : s.counts.frame < due) {fault : Fault}
    (hanswer : (Display.draw picture s.display).result = .error fault) :
    phase = .frame ∧ turn.result = .error fault ∧ actsOf .frame turn.acts = [.drawRefused] ∧
      turn.state.counts.frame = s.counts.frame ∧ turn.state.buzzer = s.buzzer ∧
      buzzerCalls turn.acts = [] := by
  cases h with
  | unreached hbefore => exact absurd hbefore (not_or.mpr (Phase.past_work_iff.mp hphase))
  | refused hresult hframed hbuzzer hsilent =>
    cases hframed with
    | refused _ herror hcalls _ hcount =>
      obtain rfl := Except.error.inj (hanswer.symm.trans herror)
      exact ⟨rfl, hresult, hcalls, hcount, hbuzzer, hsilent⟩
  | finished hframed =>
    cases hframed with
    | early hearly => omega
    | drawn _ hok => cases hanswer.symm.trans hok

end

/-! ## Section 3: Schedules -/

/-- The journal of a display: its count and its last frame, and the count of the session, as the
    frames have left them that were drawn, each for its target. -/
structure Filmed [Display δ] [CountingDisplay δ] (s s' : Session σ δ ι β)
    (drawn : List (Nat × Picture)) : Prop where
  count : s'.counts.frame = (drawn.map Prod.fst).foldl max s.counts.frame
  frames : CountingDisplay.frames s'.display = CountingDisplay.frames s.display + drawn.length
  last : CountingDisplay.last s'.display =
    ((drawn.map Prod.snd).getLast?).getD (CountingDisplay.last s.display)
  /-- No frame is drawn but for a target above the count. -/
  sparing : s.counts.frame + drawn.length ≤ s'.counts.frame

section

variable [Display δ] [CountingDisplay δ] {due : Nat} {picture : Picture}
  {s s' s'' : Session σ δ ι β} {acts : List Act} {drawn more : List (Nat × Picture)}

theorem filmed_of_same (hdisplay : CountingDisplay.frames s'.display =
      CountingDisplay.frames s.display ∧
      CountingDisplay.last s'.display = CountingDisplay.last s.display)
    (hcount : s'.counts.frame = s.counts.frame) : Filmed s s' [] where
  count := hcount
  frames := hdisplay.1
  last := hdisplay.2
  sparing := Nat.le_of_eq hcount.symm

theorem Filmed.trans (h : Filmed s s' drawn) (h' : Filmed s' s'' more) :
    Filmed s s'' (drawn ++ more) where
  count := by rw [h'.count, h.count, List.map_append, List.foldl_append]
  frames := by rw [h'.frames, h.frames, List.length_append, Nat.add_assoc]
  last := by rw [h'.last, h.last, List.map_append, List.getLast?_append, Option.getD_or]
  sparing := by
    have hearlier := h.sparing
    have hlater := h'.sparing
    rw [List.length_append]
    omega

theorem Undrawn.filmed (h : Undrawn s s' acts) :
    Filmed s s' ((pictures acts).map (due, ·)) := by
  have hnone : pictures acts = [] := by
    rw [← pictures_actsOf, h.calls]
    rfl
  rw [hnone]
  exact filmed_of_same (h.display ▸ ⟨rfl, rfl⟩) h.count

theorem Framed.filmed {result : Except Fault Unit} (h : Framed due picture s s' acts result) :
    Filmed s s' ((pictures acts).map (due, ·)) := by
  cases h with
  | early _ hnone => exact hnone.filmed
  | drawn hdue hanswer hcalls hdisplay hcount =>
    have hone : pictures acts = [picture] := by
      rw [← pictures_actsOf, hcalls]
      rfl
    obtain ⟨hframes, hlast⟩ := CountingDisplay.drawn picture s.display hanswer
    rw [← hdisplay] at hframes hlast
    rw [hone]
    refine ⟨?_, hframes, hlast, ?_⟩
    · exact hcount.trans (Nat.max_eq_right (Nat.le_of_lt hdue)).symm
    · rw [hcount]
      exact hdue
  | refused hdue hanswer hcalls hdisplay hcount =>
    have hnone : pictures acts = [] := by
      rw [← pictures_actsOf, hcalls]
      rfl
    have hsame := CountingDisplay.refused picture s.display (by simp [hanswer])
    rw [← hdisplay] at hsame
    rw [hnone]
    exact filmed_of_same hsame hcount

theorem Framing.filmed {phase : Phase} {turn : Turn (Session σ δ ι β) Flow}
    (h : Framing due picture s phase turn) :
    Filmed s turn.state ((pictures turn.acts).map (due, ·)) := by
  cases h with
  | unreached _ hnone => exact hnone.filmed
  | refused _ hframed => exact hframed.filmed
  | finished hframed => exact hframed.filmed

end

section

variable [ByteSource σ] [Display δ] [Input ι] [Buzzer β]

/-- The frames that a schedule draws, each with the target for which it was drawn. -/
def draws : List (Nat × Nat) → Session σ δ ι β → List (Nat × Picture)
  | [], _ => []
  | (now, elapsed) :: later, s =>
    let turn := advance now elapsed s
    (pictures turn.acts).map (target elapsed s.rates.frame, ·) ++ draws later turn.state

variable [DiscreetDisplay δ] [DiscreetInput ι] [DiscreetBuzzer β] [CountingDisplay δ]

theorem filmed_after (schedule : List (Nat × Nat)) (s : Session σ δ ι β) :
    Filmed s (after schedule s) (draws schedule s) := by
  induction schedule generalizing s with
  | nil => exact filmed_of_same ⟨rfl, rfl⟩ rfl
  | cons time later ih =>
    obtain ⟨now, elapsed⟩ := time
    exact (advance_framing now elapsed s).filmed.trans (ih _)

/-- A frame that was refused is asked for again by the next advance that gets so far and for which
    a frame is due, counted from where the refusal has left the count. -/
theorem asked_for_again {skipped : List (Nat × Nat)} {s : Session σ δ ι β}
    (hnone : draws skipped s = []) (now elapsed : Nat) :
    let phase := reached now elapsed (after skipped s)
    phase = .frame ∨ phase = .buzzer → s.counts.frame < target elapsed s.rates.frame →
      (actsOf .frame (advance now elapsed (after skipped s)).acts).length = 1 := by
  intro phase hphase hdue
  -- only a frame that is drawn moves the count
  have hcount : (after skipped s).counts.frame = s.counts.frame := by
    have hfilmed := (filmed_after skipped s).count
    rwa [hnone] at hfilmed
  rw [← rates_after skipped s, ← hcount] at hdue
  obtain ⟨result, hframed⟩ := (advance_framing now elapsed (after skipped s)).framed hphase
  exact (hframed.asked hdue).1

/-! ## Section 4: The main result -/

/-- In a new session with a display that remembers, and whatever its advances come to, the count of
    frames is the largest of the targets for which a frame was drawn, or 0 if there is none. These
    frames, no more of them than the count, are what the display has counted since it was new to the
    session, and it keeps the last. An advance that does not get through its work leaves the display
    alone. Any other asks the display if its target is above the count, and then once, with the
    picture as the steps have left it. If a frame is drawn the target is the new count. If it is
    refused, the advance fails as the display did, the count stays, the buzzer is left alone, and
    the next advance that gets so far with a target above the count asks again. -/
theorem frames_drawn_once_and_retried (interpreter : Interpreter σ) (display : δ) (input : ι)
    (buzzer : β) (rates : Rates) (schedule : List (Nat × Nat)) :
    let s : Session σ δ ι β := { interpreter, display, input, buzzer, rates }
    let drawn := draws schedule s
    let last := after schedule s
    last.counts.frame = (drawn.map Prod.fst).foldl max 0 ∧
    CountingDisplay.frames last.display = CountingDisplay.frames display + drawn.length ∧
    drawn.length ≤ last.counts.frame ∧
    CountingDisplay.last last.display =
      ((drawn.map Prod.snd).getLast?).getD (CountingDisplay.last display) ∧
    ∀ now elapsed,
      let turn := advance now elapsed last
      let phase := reached now elapsed last
      let due := target elapsed rates.frame
      let picture := (work elapsed (hear now last).state).state.interpreter.machine.picture
      let answer := Display.draw picture last.display
      (phase = .events ∨ phase = .work → Undrawn last turn.state turn.acts) ∧
      (phase = .frame ∨ phase = .buzzer →
        (due ≤ last.counts.frame → phase = .buzzer ∧ Undrawn last turn.state turn.acts) ∧
        (last.counts.frame < due →
          turn.state.display = answer.state ∧
          (answer.result = .ok () → phase = .buzzer ∧
            actsOf .frame turn.acts = [.drew picture] ∧ turn.state.counts.frame = due) ∧
          ∀ fault, answer.result = .error fault → phase = .frame ∧
            turn.result = .error fault ∧ actsOf .frame turn.acts = [.drawRefused] ∧
            turn.state.counts.frame = last.counts.frame ∧
            turn.state.buzzer = last.buzzer ∧ buzzerCalls turn.acts = [] ∧
            ∀ skipped, draws skipped turn.state = [] → ∀ now elapsed,
              let next := after skipped turn.state
              reached now elapsed next = .frame ∨ reached now elapsed next = .buzzer →
                last.counts.frame < target elapsed rates.frame →
                (actsOf .frame (advance now elapsed next).acts).length = 1)) := by
  intro s drawn last
  have hrates : last.rates = rates := rates_after schedule s
  have hfilmed : Filmed s last drawn := filmed_after schedule s
  have hsparing : 0 + drawn.length ≤ last.counts.frame := hfilmed.sparing
  rw [Nat.zero_add] at hsparing
  refine ⟨hfilmed.count, hfilmed.frames, hsparing, hfilmed.last, fun now elapsed => ?_⟩
  intro turn phase due picture answer
  have hframing : Framing due picture last phase turn := by
    have hadvance := advance_framing now elapsed last
    rwa [hrates] at hadvance
  refine ⟨hframing.undrawn, fun hphase => ⟨hframing.of_early hphase, fun hdue => ?_⟩⟩
  obtain ⟨result, hframed⟩ := hframing.framed hphase
  refine ⟨(hframed.asked hdue).2, hframing.of_drawn hphase hdue, fun fault hfault => ?_⟩
  obtain ⟨hrefused, hresult, hcalls, hcount, hbuzzer, hsilent⟩ :=
    hframing.of_refused hphase hdue hfault
  refine ⟨hrefused, hresult, hcalls, hcount, hbuzzer, hsilent, fun skipped hnone now elapsed => ?_⟩
  intro next hnext hlater
  have hturn : turn.state.rates = rates := (keeps_advance _ _ last).trans hrates
  rw [← hcount, ← hturn] at hlater
  exact asked_for_again hnone now elapsed hnext hlater

end

/-- A machine that waits for a key with a line on its screen, a display that refuses its first
    frame, and an input that refuses its second poll. -/
def flickering : Session Stride (Unreliable FrameKeeper) (Unreliable Script) Mute where
  interpreter :=
    ⟨{ Machine.fresh with picture := .ofRows [(4, 0xff00)], mode := .awaitingKey 3 }, ⟨1, 0⟩⟩
  display := { device := {}, refusal := "no frame", failing := [0] }
  input := { device := ⟨[]⟩, refusal := "no keys", failing := [1] }
  buzzer := {}
  rates := {}

/-- Three frames are due at first and none is drawn. An advance that stops at the events makes no
    difference to that. So one is drawn as soon as it can be, though by that time only one is due,
    and it is the only one, with another advance to a hundred milliseconds still to come. -/
theorem flickering_frame :
    let refused := advance 0 50000000 flickering
    let stopped := after [(0, 100000000)] refused.state
    let last := after [(0, 50000000), (0, 100000000), (0, 20000000)] flickering
    refused.result = .error (.device "no frame") ∧ refused.state.counts.frame = 0 ∧
    (actsOf .frame (advance 0 20000000 stopped).acts).length = 1 ∧
    last.counts.frame = 1 ∧ CountingDisplay.frames last.display = 1 ∧
    CountingDisplay.last last.display = .ofRows [(4, 0xff00)] ∧
    (advance 0 100000000 last).state.counts.frame = 6 := by
  intro refused stopped last
  have heta : (⟨flickering.interpreter, flickering.display, flickering.input, flickering.buzzer,
    flickering.rates, {}⟩ : Session _ _ _ _) = flickering := rfl
  have hmain := frames_drawn_once_and_retried flickering.interpreter flickering.display
    flickering.input flickering.buzzer flickering.rates
  dsimp only at hmain
  rw [heta] at hmain
  -- the first advance, and the one after the second
  obtain ⟨-, -, -, -, hadvances⟩ := hmain []
  obtain ⟨-, hframe⟩ := hadvances 0 50000000
  obtain ⟨-, hdue⟩ := hframe (.inl (by decide +kernel))
  obtain ⟨-, -, hrefused⟩ := hdue (by decide)
  obtain ⟨-, hresult, -, hcount, -, -, hagain⟩ := hrefused (.device "no frame") rfl
  have hnext := hagain [(0, 100000000)] (by decide +kernel) 0 20000000
    (.inr (by decide +kernel)) (by decide)
  -- all three, and the next
  have hdrawn : draws [(0, 50000000), (0, 100000000), (0, 20000000)] flickering =
      [(1, .ofRows [(4, 0xff00)])] := by decide +kernel
  obtain ⟨hlast, hframes, -, hpicture, hadvances⟩ :=
    hmain [(0, 50000000), (0, 100000000), (0, 20000000)]
  rw [hdrawn] at hlast hframes hpicture
  obtain ⟨-, hframe⟩ := hadvances 0 100000000
  obtain ⟨-, hdue⟩ := hframe (.inr (by decide +kernel))
  rw [hlast] at hdue
  obtain ⟨-, hok, -⟩ := hdue (by decide)
  obtain ⟨-, -, hsix⟩ := hok (by decide +kernel)
  have htarget : target 100000000 flickering.rates.frame = 6 := by decide
  refine ⟨hresult, hcount, hnext, hlast, hframes, hpicture, ?_⟩
  simpa only [last] using hsix.trans htarget

end Session

end Chip8
