import Chip8.Proofs.Keyboard.Held

/-! # A key is released once for each time it is held

    Keys are pressed, and releases are asked for, in any order and at any times, which may also run
    backwards. Whatever has happened, the keys that are released are those that have been pressed
    since their last release, and whose last press is at least one hold ago.

    What has happened is a log of the calls and of the keys that they gave. One call changes the
    time at which a key is due in the way that it changes the press of that key which the log has no
    release for (`due_answer_eq_some`, `outstanding_concat`). So the two go together along any run
    (`Tracks.after`). No other key comes into it. -/

namespace Chip8.Holds

/-! ## Section 1: Calls and their answers -/

/-- Something that is asked of the holds. -/
inductive Call where
  | press (key : UInt8) (now : Nat)
  | release (now : Nat)
  deriving DecidableEq

/-- The keys that a call gives, and the holds after it. -/
def answer (h : Holds) : Call → List UInt8 × Holds
  | .press key now => ([], h.press key now)
  | .release now => h.release now

/-- The holds after some calls. -/
def after (calls : List Call) (h : Holds) : Holds :=
  calls.foldl (fun h call => (h.answer call).2) h

@[simp] theorem after_nil (h : Holds) : after [] h = h := rfl

@[simp] theorem after_cons (call : Call) (calls : List Call) (h : Holds) :
    after (call :: calls) h = after calls (h.answer call).2 := rfl

theorem after_append (earlier later : List Call) (h : Holds) :
    after (earlier ++ later) h = after later (after earlier h) :=
  List.foldl_append

/-- A call with the keys that it gave. -/
structure Entry where
  call : Call
  keys : List UInt8
  deriving DecidableEq

/-- The call as it is answered by these holds. -/
def entry (h : Holds) (call : Call) : Entry := ⟨call, (h.answer call).1⟩

/-- Some calls with their answers. -/
def log : List Call → Holds → List Entry
  | [], _ => []
  | call :: rest, h => h.entry call :: log rest (h.answer call).2

/-- The keys that are released when nothing was held at first. -/
def released (hold : Nat) (calls : List Call) (now : Nat) : List UInt8 :=
  ((after calls (none hold)).release now).1

/-- The time of a press, if it is one of this key. Any number that is the same modulo 16 will do. -/
def Call.pressedAt? (k : Fin 16) : Call → Option Nat
  | .press key now => if Machine.slot key = k then some now else Option.none
  | .release _ => Option.none

/-- The key is pressed by this call or released by it. -/
def Entry.Concerns (k : Fin 16) (e : Entry) : Prop :=
  e.call.pressedAt? k ≠ Option.none ∨ UInt8.ofNat k ∈ e.keys

instance (k : Fin 16) (e : Entry) : Decidable (e.Concerns k) :=
  inferInstanceAs (Decidable (_ ∨ _))

/-- The key was pressed at that time, and neither pressed nor released since. -/
def Outstanding (k : Fin 16) (time : Nat) (past : List Entry) : Prop :=
  ∃ earlier e later, past = earlier ++ e :: later ∧ e.call.pressedAt? k = some time ∧
    ∀ e ∈ later, ¬ e.Concerns k

variable {k : Fin 16} {time now : Nat}

theorem not_outstanding_nil : ¬ Outstanding k time [] := by
  rintro ⟨earlier, e, later, hpast, -⟩
  simp at hpast

theorem outstanding_concat {past : List Entry} {e : Entry} :
    Outstanding k time (past ++ [e]) ↔
      e.call.pressedAt? k = some time ∨ ¬ e.Concerns k ∧ Outstanding k time past := by
  constructor
  · rintro ⟨earlier, pressed, later, hpast, hpressed, hlater⟩
    -- the press is the last entry itself, or it stands before it
    rcases List.eq_nil_or_concat' later with rfl | ⟨between, last, rfl⟩
    · obtain ⟨-, he⟩ := List.append_inj' hpast rfl
      cases he
      exact .inl hpressed
    · rw [← List.cons_append, ← List.append_assoc] at hpast
      obtain ⟨hearlier, he⟩ := List.append_inj' hpast rfl
      cases he
      rw [List.forall_mem_append] at hlater
      exact .inr ⟨hlater.2 _ (List.mem_singleton_self _),
        earlier, pressed, between, hearlier, hpressed, hlater.1⟩
  · rintro (hpressed | ⟨hconcerns, earlier, pressed, later, rfl, hpressed, hlater⟩)
    · exact ⟨past, e, [], rfl, hpressed, by simp⟩
    · refine ⟨earlier, pressed, later ++ [e], by simp, hpressed, ?_⟩
      rw [List.forall_mem_append]
      exact ⟨hlater, by simpa using hconcerns⟩

/-! ## Section 2: One key -/

/-- The keys of a release are those that are due. -/
theorem mem_release {h : Holds} {byte : UInt8} :
    byte ∈ (h.release now).1 ↔
      ∃ (k : Fin 16) (due : Nat), byte = UInt8.ofNat k ∧ h.due.get k = some due ∧ due ≤ now := by
  simp only [release, expired, List.mem_map, List.mem_filter, List.mem_finRange, true_and]
  constructor
  · rintro ⟨k, hdue, rfl⟩
    cases htime : h.due.get k with
    | none => simp [htime, isDue] at hdue
    | some due => exact ⟨k, due, rfl, htime, by simpa [htime, isDue] using hdue⟩
  · rintro ⟨k, due, rfl, htime, hle⟩
    exact ⟨k, by simpa [htime, isDue] using hle, rfl⟩

theorem ofNat_eq_ofNat_iff {j k : Fin 16} : UInt8.ofNat j = UInt8.ofNat k ↔ j = k := by
  rw [← UInt8.toNat_inj, toNat_ofNat_key, toNat_ofNat_key, Fin.ext_iff]

theorem ofNat_mem_release {h : Holds} :
    UInt8.ofNat k ∈ (h.release now).1 ↔ ∃ due, h.due.get k = some due ∧ due ≤ now := by
  rw [mem_release]
  constructor
  · rintro ⟨j, due, hbyte, hdue⟩
    rw [ofNat_eq_ofNat_iff] at hbyte
    exact ⟨due, hbyte ▸ hdue⟩
  · rintro ⟨due, hdue⟩
    exact ⟨k, due, rfl, hdue⟩

theorem pairwise_release (h : Holds) (now : Nat) : (h.release now).1.Pairwise (· < ·) := by
  unfold release expired
  rw [List.pairwise_map]
  refine ((List.pairwise_lt_finRange 16).filter _).imp fun {j k} hlt => ?_
  rw [UInt8.lt_iff_toNat_lt, toNat_ofNat_key, toNat_ofNat_key]
  exact hlt

@[simp] theorem hold_none (hold : Nat) : (none hold).hold = hold := rfl

@[simp] theorem hold_answer (h : Holds) (call : Call) : (h.answer call).2.hold = h.hold := by
  cases call <;> rfl

@[simp] theorem hold_after (calls : List Call) (h : Holds) : (after calls h).hold = h.hold := by
  induction calls generalizing h with
  | nil => rfl
  | cons call rest ih => exact (ih _).trans (hold_answer h call)

/-- What a call makes of the time at which one key is due. -/
def Call.due (hold : Nat) (k : Fin 16) (due : Option Nat) : Call → Option Nat
  | .press key now => if Machine.slot key = k then some (now + hold) else due
  | .release now => due.filter (now < ·)

theorem due_answer (h : Holds) (call : Call) (k : Fin 16) :
    (h.answer call).2.due.get k = call.due h.hold k (h.due.get k) := by
  cases call with
  | press key now =>
    by_cases hslot : Machine.slot key = k
    · subst hslot
      simp [answer, Call.due]
    · simp [answer, Call.due, hslot, due_press_ne h now (Ne.symm hslot)]
  | release now => exact (due_dropExpired h now k).trans (eq_filter_of_due now _)

/-- No other key is asked about. -/
theorem due_after (calls : List Call) (h : Holds) (k : Fin 16) :
    (after calls h).due.get k = calls.foldl (Call.due h.hold k) (h.due.get k) := by
  induction calls generalizing h with
  | nil => rfl
  | cons call rest ih => rw [after_cons, ih, hold_answer, due_answer, List.foldl_cons]

theorem Call.due_eq_self {call : Call} {hold : Nat} {due : Option Nat}
    (hpressed : call.pressedAt? k = Option.none)
    (hearly : ∀ early, call = .release early → ∀ time ∈ due, early < time) :
    call.due hold k due = due := by
  cases call with
  | press key now =>
    have hslot : Machine.slot key ≠ k := fun hslot => by simp [pressedAt?, hslot] at hpressed
    exact if_neg hslot
  | release now =>
    cases due with
    | none => rfl
    | some time =>
      have hlt : now < time := hearly now rfl time rfl
      simp [due, hlt]

/-- As long as a key is not pressed, and no release is asked for after it is due, that time stays as
    it is. -/
theorem due_after_of_unpressed {calls : List Call} {h : Holds} {due : Option Nat}
    (hdue : h.due.get k = due) (hpressed : ∀ call ∈ calls, call.pressedAt? k = Option.none)
    (hearly : ∀ early, .release early ∈ calls → ∀ time ∈ due, early < time) :
    (after calls h).due.get k = due := by
  induction calls generalizing h with
  | nil => exact hdue
  | cons call rest ih =>
    rw [List.forall_mem_cons] at hpressed
    refine ih ?_ hpressed.2 fun early hmem => hearly early (List.mem_cons_of_mem call hmem)
    rw [due_answer, hdue]
    exact Call.due_eq_self hpressed.1 fun early heq => hearly early (heq ▸ List.mem_cons_self)

/-- A key is due one hold after a call that presses it. A call that has nothing to do with it makes
    no difference, and after one that releases it nothing is due. -/
theorem due_answer_eq_some {h : Holds} {call : Call} {due : Nat} :
    (h.answer call).2.due.get k = some due ↔
      (∃ time, call.pressedAt? k = some time ∧ time + h.hold = due) ∨
        ¬ (h.entry call).Concerns k ∧ h.due.get k = some due := by
  rw [due_answer]
  cases call with
  | press key now =>
    by_cases hslot : Machine.slot key = k
    · simp [Call.due, Call.pressedAt?, Entry.Concerns, entry, hslot]
    · simp [Call.due, Call.pressedAt?, Entry.Concerns, entry, answer, hslot]
  | release now =>
    -- what is due is given and struck out, and what is left is due later
    have hconcerns : (h.entry (.release now)).Concerns k ↔
        ∃ due, h.due.get k = some due ∧ due ≤ now := by
      simp [Entry.Concerns, entry, Call.pressedAt?, answer, ofNat_mem_release]
    have hstays : (h.due.get k).filter (now < ·) = some due ↔
        h.due.get k = some due ∧ now < due := by
      simp [Option.filter_eq_some_iff]
    rw [hconcerns, Call.due, hstays]
    simp only [Call.pressedAt?, reduceCtorEq, false_and, exists_false, false_or]
    constructor
    · rintro ⟨hdue, hlt⟩
      refine ⟨?_, hdue⟩
      rintro ⟨due', hdue', hle⟩
      rw [hdue, Option.some_inj] at hdue'
      omega
    · rintro ⟨hnot, hdue⟩
      exact ⟨hdue, Nat.lt_of_not_le fun hle => hnot ⟨due, hdue, hle⟩⟩

theorem due_answer_of_not_concerns {h : Holds} {call : Call}
    (hconcerns : ¬ (h.entry call).Concerns k) : (h.answer call).2.due.get k = h.due.get k := by
  have hpressed : call.pressedAt? k = Option.none :=
    not_not.mp fun hpressed => hconcerns (.inl hpressed)
  ext due
  simp [due_answer_eq_some, hpressed, hconcerns]

theorem due_answer_of_pressed (h : Holds) {call : Call} (hpressed : call.pressedAt? k = some time) :
    (h.answer call).2.due.get k = some (time + h.hold) :=
  due_answer_eq_some.mpr (.inl ⟨time, hpressed, rfl⟩)

theorem due_answer_of_released {h : Holds} (hreleased : UInt8.ofNat k ∈ (h.release now).1) :
    (h.answer (.release now)).2.due.get k = Option.none := by
  have hconcerns : (h.entry (.release now)).Concerns k := .inr hreleased
  refine Option.eq_none_iff_forall_ne_some.mpr fun due => ?_
  simp [due_answer_eq_some, Call.pressedAt?, hconcerns]

/-! ## Section 3: All calls -/

/-- A key is due exactly if its last press has no release, and then one hold after it. -/
def Tracks (past : List Entry) (h : Holds) : Prop :=
  ∀ (k : Fin 16) (due : Nat),
    h.due.get k = some due ↔ ∃ time, Outstanding k time past ∧ time + h.hold = due

theorem tracks_nil (hold : Nat) : Tracks [] (none hold) := by
  intro k due
  have hnothing : (none hold).due.get k = Option.none := Vector.getElem_replicate k.isLt
  simp [hnothing, not_outstanding_nil]

theorem Tracks.answer {past : List Entry} {h : Holds} (htracks : Tracks past h) (call : Call) :
    Tracks (past ++ [h.entry call]) (h.answer call).2 := by
  intro k due
  rw [due_answer_eq_some, htracks k due, hold_answer]
  -- the same two cases on both sides: the call presses the key, or it leaves it alone
  simp only [outstanding_concat, or_and_right, exists_or, and_assoc, exists_and_left]
  rfl

theorem Tracks.after {past : List Entry} {h : Holds} (htracks : Tracks past h)
    (calls : List Call) : Tracks (past ++ log calls h) (after calls h) := by
  induction calls generalizing past h with
  | nil => simpa [log] using htracks
  | cons call rest ih => simpa [log] using ih (htracks.answer call)

/-- The holds that begin with nothing held. -/
theorem tracks (hold : Nat) (calls : List Call) :
    Tracks (log calls (none hold)) (after calls (none hold)) :=
  (tracks_nil hold).after calls

/-! ## Section 4: The main result -/

/-- Let nothing be held at first, and let any calls follow, at any times. Then a release gives in
    ascending order the keys that were pressed, by any number that is the same modulo 16, and
    neither pressed nor released since, if that press is at least a hold ago; and it gives no
    others. A call that neither presses nor releases a key makes no difference to when it is
    released later. From one release of a key to the next there is a press of it. And once a key is
    pressed, the first release that is asked for at the end of the hold or later gives it, if it
    was not pressed again before. -/
theorem each_press_released_once (hold : Nat) :
    (∀ calls now,
      (released hold calls now).Pairwise (· < ·) ∧
      ∀ byte, byte ∈ released hold calls now ↔
        ∃ (k : Fin 16) (time : Nat), byte = UInt8.ofNat k ∧
          Outstanding k time (log calls (none hold)) ∧ time + hold ≤ now) ∧
    ∀ (k : Fin 16) (earlier later : List Call) (now : Nat),
      (∀ call, ¬ ((after earlier (none hold)).entry call).Concerns k →
        (UInt8.ofNat k ∈ released hold (earlier ++ call :: later) now ↔
          UInt8.ofNat k ∈ released hold (earlier ++ later) now)) ∧
      (∀ time, UInt8.ofNat k ∈ released hold earlier time →
        UInt8.ofNat k ∈ released hold (earlier ++ .release time :: later) now →
          ∃ call ∈ later, call.pressedAt? k ≠ Option.none) ∧
      ∀ press time, press.pressedAt? k = some time →
        (∀ call ∈ later, call.pressedAt? k = Option.none) →
        (∀ early, .release early ∈ later → early < time + hold) → time + hold ≤ now →
          UInt8.ofNat k ∈ released hold (earlier ++ press :: later) now := by
  refine ⟨fun calls now => ⟨pairwise_release _ now, fun byte => ?_⟩,
    fun k earlier later now => ⟨fun call hconcerns => ?_, fun time hfirst hsecond => ?_,
      fun press time hpress hlater hearly hnow => ?_⟩⟩
  · rw [released, mem_release]
    refine exists_congr fun k => ?_
    simp only [tracks hold calls k, hold_after, hold_none]
    constructor
    · rintro ⟨_, hbyte, ⟨time, houtstanding, rfl⟩, hle⟩
      exact ⟨time, hbyte, houtstanding, hle⟩
    · rintro ⟨time, hbyte, houtstanding, hle⟩
      exact ⟨_, hbyte, ⟨time, houtstanding, rfl⟩, hle⟩
  · simp only [released, ofNat_mem_release, after_append, after_cons, due_after, hold_answer,
      due_answer_of_not_concerns hconcerns]
  · by_contra hnone
    push Not at hnone
    -- after the first release nothing is due, and without a press it stays so
    have hgone := due_answer_of_released hfirst
    have hstill := due_after_of_unpressed hgone hnone (by simp)
    rw [released, after_append, after_cons, ofNat_mem_release, hstill] at hsecond
    obtain ⟨due, hdue, -⟩ := hsecond
    cases hdue
  · have hdue := due_answer_of_pressed (after earlier (none hold)) hpress
    rw [hold_after, hold_none] at hdue
    have hstill := due_after_of_unpressed hdue hlater (by simpa using hearly)
    rw [released, after_append, after_cons, ofNat_mem_release]
    exact ⟨time + hold, hstill, hnow⟩

/-- Two keys, one of which is pressed twice, by two of its numbers. -/
def threePresses : List Call := [.press 0x1a 0, .press 0x05 30, .press 0xaa 80]

/-- With a hold of 100, a release at 150 gives the key that was pressed once. The other one is due
    at 180, and that is so whether the first release was asked for or not, and even if time has run
    backwards since. It is not given again until it is pressed, at 40, and then at 140 it is. -/
theorem releases_of_three_presses :
    released 100 threePresses 150 = [0x5] ∧
    0xa ∈ released 100 threePresses 180 ∧
    0xa ∈ released 100 (threePresses ++ [.release 150, .release 20]) 180 ∧
    0xa ∉ released 100 (threePresses ++ [.release 180, .press 0x05 200]) 500 ∧
    0xa ∈ released 100 (threePresses ++ [.release 180] ++ [.press 0x3a 40, .release 139]) 140 := by
  obtain ⟨hreleased, hkeys⟩ := each_press_released_once 100
  have hfirst : 0xa ∈ released 100 threePresses 180 := by
    refine ((hreleased threePresses 180).2 0xa).mpr ⟨0xa, 80, rfl, ?_, by decide⟩
    exact ⟨[⟨.press 0x1a 0, []⟩, ⟨.press 0x05 30, []⟩], ⟨.press 0xaa 80, []⟩, [], rfl, rfl, by simp⟩
  obtain ⟨hsilent, -, -⟩ := hkeys 0xa threePresses [.release 20] 180
  obtain ⟨-, -, hpressed⟩ := hkeys 0xa [.press 0x1a 0, .press 0x05 30] [.release 20] 180
  obtain ⟨-, hbetween, -⟩ := hkeys 0xa threePresses [.press 0x05 200] 500
  obtain ⟨-, -, hagain⟩ := hkeys 0xa (threePresses ++ [.release 180]) [.release 139] 140
  refine ⟨by decide, hfirst, ?_, fun hsecond => ?_, ?_⟩
  -- without the release at 150 there is nothing after the last press but an early release
  · refine (hsilent (.release 150) (by decide)).mpr ?_
    exact hpressed (.press 0xaa 80) 80 rfl (by decide) (by simp) (by decide)
  · have hpress := hbetween 180 hfirst hsecond
    exact absurd hpress (by decide)
  · exact hagain (.press 0x3a 40) 40 rfl (by decide) (by simp) (by decide)

end Chip8.Holds
