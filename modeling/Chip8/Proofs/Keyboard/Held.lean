import Chip8.Keyboard.Basic
import Chip8.Proofs.Interpreter.Latch
import Mathlib.Data.List.Forall2

/-! # When a key is held

    A terminal never tells that a key is let go. The keyboard makes up for it: a typed key goes down
    at once and up when its hold is over, counted from the last time that it was typed. Applied to
    an interpreter, in their order and poll after poll, these events keep the latch of a key closed
    for exactly as long as that hold lasts.

    The keyboard and the latches are followed together, one key at a time: after each poll a latch
    is closed if and only if the keyboard still has a release of its key to come. -/

namespace Chip8

/-! ## Section 1: What a report says -/

/-- The number of a key is a byte. -/
@[simp] theorem toNat_ofNat_key (k : Fin 16) : (UInt8.ofNat k).toNat = k := by
  rw [UInt8.toNat_ofNat']
  omega

namespace TerminalEvent

/-- Does the terminal report that the user wants to stop? -/
def quits : TerminalEvent → Bool
  | .key { code := .escape, .. } => true
  | .key { code := .char c, control, .. } => c = 'c' && control
  | _ => false

/-- Does it report a character that the layout, in lower case, has this key for? -/
def types (layout : Layout) (k : Fin 16) : TerminalEvent → Bool
  | .key { code := .char c, .. } => layout.key? c.toLower = some (UInt8.ofNat k)
  | _ => false

/-- The event that a report becomes, if it becomes one. -/
def event? (layout : Layout) : TerminalEvent → Option KeyEvent
  | .key { code := .escape, .. } => some .quit
  | .key { code := .char c, control, .. } =>
    if c = 'c' ∧ control then some .quit else (layout.key? c.toLower).map .down
  | _ => none

end TerminalEvent

/-- The keys of a layout are keys of the machine. -/
theorem Layout.key?_lt {layout : Layout} {c : Char} {key : UInt8} (h : layout.key? c = some key) :
    key.toNat < 16 := by
  obtain ⟨before, after, htable, -⟩ := List.lookup_eq_some_iff.mp h
  have hmem : (c, key) ∈ layout.table := by
    rw [htable]
    exact List.mem_append_right before List.mem_cons_self
  have hall : ∀ entry ∈ layout.table, entry.2.toNat < 16 := by
    cases layout with
    | qwerty => decide
    | dvorak => decide
  exact hall _ hmem

namespace Keyboard

/-- What an event does to the holds: a key that goes down is held anew. -/
def renew (now : Nat) (holds : Holds) : KeyEvent → Holds
  | .down key => holds.press key now
  | .up _ | .quit => holds

theorem press_eq (now : Nat) (p : KeyPress) (k : Keyboard) :
    let events := (TerminalEvent.event? k.layout (.key p)).toList
    (press now p k).result = .ok events ∧
      (press now p k).state = { k with holds := events.foldl (renew now) k.holds } := by
  obtain ⟨code, control, alt⟩ := p
  cases code with
  | char c =>
    simp only [press, TerminalEvent.event?]
    split
    · exact ⟨rfl, rfl⟩
    · cases k.layout.key? c.toLower <;> exact ⟨rfl, rfl⟩
  | _ => exact ⟨rfl, rfl⟩

/-- Typing never fails, and depends on the reports through their events alone. -/
theorem type_eq (now : Nat) (reports : List TerminalEvent) (k : Keyboard) :
    let events := reports.filterMap (TerminalEvent.event? k.layout)
    (type now reports k).result = .ok events ∧
      (type now reports k).state = { k with holds := events.foldl (renew now) k.holds } := by
  induction reports generalizing k with
  | nil => exact ⟨rfl, rfl⟩
  | cons report rest ih =>
    cases report with
    | key p =>
      obtain ⟨hresult, hstate⟩ := press_eq now p k
      obtain ⟨hrest, hrestState⟩ := ih (press now p k).state
      have htype : type now (.key p :: rest) k =
          Action.andThen (press now p) (fun events =>
            Action.andThen (type now rest) fun later => Action.done (events ++ later)) k := rfl
      rw [htype, Action.andThen_ok hresult, Action.andThen_done, hrest, hrestState, hstate]
      dsimp only
      cases hevent : TerminalEvent.event? k.layout (.key p) with
      | none => simp [hevent, Except.map]
      | some event => simp [hevent, Except.map]
    | position => exact ih k
    | other => exact ih k

/-- A poll reports what was typed and then the releases that are due by then. -/
theorem read_eq (now : Nat) (reports : List TerminalEvent) (k : Keyboard) :
    let typed := reports.filterMap (TerminalEvent.event? k.layout)
    let holds := typed.foldl (renew now) k.holds
    (read now reports k).result = .ok (typed ++ (holds.release now).1.map .up) ∧
      (read now reports k).state = { k with holds := holds.dropExpired now } := by
  obtain ⟨hresult, hstate⟩ := type_eq now reports k
  have hread : read now reports k =
      Action.andThen (type now reports) (fun typed =>
        Action.andThen (release now) fun released => Action.done (typed ++ released)) k := rfl
  rw [hread, Action.andThen_ok hresult, Action.andThen_done, hstate]
  exact ⟨rfl, rfl⟩

end Keyboard

/-! ## Section 2: One key through one poll -/

/-- Is this the event that a key goes down? -/
def KeyEvent.downs (k : Fin 16) : KeyEvent → Bool
  | .down key => key.toNat = k
  | .up _ | .quit => false

/-- The operation that a key event asks for. -/
def KeyEvent.operation? : KeyEvent → Option Operation
  | .down key => some (.keyDown key)
  | .up key => some (.keyUp key)
  | .quit => none

/-- What events make of the latch of a key. -/
def latchAfter (k : Fin 16) (held : Bool) (events : List KeyEvent) : Bool :=
  (events.filterMap KeyEvent.operation?).foldl (fun held operation => operation.latch k held) held

theorem latchAfter_append (k : Fin 16) (held : Bool) (earlier later : List KeyEvent) :
    latchAfter k held (earlier ++ later) = latchAfter k (latchAfter k held earlier) later := by
  simp [latchAfter]

/-- What comes of a report while nobody wants to stop: a key of the machine goes down. -/
theorem TerminalEvent.event?_eq_down {layout : Layout} {report : TerminalEvent} {event : KeyEvent}
    (hquit : report.quits = false) (h : report.event? layout = some event) :
    ∃ key, event = .down key ∧ key.toNat < 16 := by
  unfold event? at h
  split at h
  · cases hquit
  · split at h
    · next hcontrol =>
      simp [quits, hcontrol] at hquit
    · obtain ⟨key, hkey, rfl⟩ := Option.map_eq_some_iff.mp h
      exact ⟨key, rfl, Layout.key?_lt hkey⟩
  · cases h

theorem TerminalEvent.downs_event? {report : TerminalEvent} (hquit : report.quits = false)
    (layout : Layout) (k : Fin 16) :
    (report.event? layout).any (KeyEvent.downs k) = report.types layout k := by
  cases report with
  | position | other => rfl
  | key p =>
    obtain ⟨code, control, alt⟩ := p
    cases code with
    | escape => cases hquit
    | char c =>
      have hplain : ¬ (c = 'c' ∧ control) := by simpa [quits] using hquit
      simp only [event?, types, if_neg hplain]
      cases hkey : layout.key? c.toLower with
      | none => rfl
      | some key =>
        have hbyte : key = UInt8.ofNat k ↔ key.toNat = k := by
          rw [← UInt8.toNat_inj, toNat_ofNat_key]
        simp [KeyEvent.downs, hbyte]
    | _ => rfl

/-- As long as nobody wants to stop, all that comes of reports is that keys go down. -/
theorem events_eq_down {layout : Layout} {reports : List TerminalEvent}
    (hquits : ∀ report ∈ reports, report.quits = false) :
    ∀ event ∈ reports.filterMap (TerminalEvent.event? layout),
      ∃ key, event = .down key ∧ key.toNat < 16 := by
  intro event hevent
  obtain ⟨report, hreport, hsome⟩ := List.mem_filterMap.mp hevent
  exact TerminalEvent.event?_eq_down (hquits report hreport) hsome

/-- And these are the keys that are typed. -/
theorem any_downs {layout : Layout} {reports : List TerminalEvent}
    (hquits : ∀ report ∈ reports, report.quits = false) (k : Fin 16) :
    (reports.filterMap (TerminalEvent.event? layout)).any (KeyEvent.downs k) =
      reports.any (·.types layout k) := by
  induction reports with
  | nil => rfl
  | cons report rest ih =>
    rw [List.forall_mem_cons] at hquits
    have hreport := TerminalEvent.downs_event? hquits.1 layout k
    rw [List.any_cons, ← ih hquits.2, ← hreport]
    cases hevent : report.event? layout with
    | none => simp [hevent]
    | some event => simp [hevent]

section

variable {typed : List KeyEvent}

/-- Keys that go down close their latches. -/
theorem latchAfter_typed (htyped : ∀ event ∈ typed, ∃ key, event = .down key ∧ key.toNat < 16)
    (k : Fin 16) (held : Bool) :
    latchAfter k held typed = (held || typed.any (KeyEvent.downs k)) := by
  induction typed generalizing held with
  | nil => simp [latchAfter]
  | cons event rest ih =>
    rw [List.forall_mem_cons] at htyped
    obtain ⟨⟨key, rfl, -⟩, hrest⟩ := htyped
    have hlatch : latchAfter k held (.down key :: rest) =
        latchAfter k (held || decide (key.toNat = k)) rest := rfl
    rw [hlatch, ih hrest, List.any_cons, Bool.or_assoc]
    rfl

@[simp] theorem Keyboard.hold_renewed (now : Nat) (holds : Holds) :
    (typed.foldl (Keyboard.renew now) holds).hold = holds.hold := by
  induction typed generalizing holds with
  | nil => rfl
  | cons event rest ih =>
    rw [List.foldl_cons, ih]
    cases event <;> rfl

/-- The hold of a key that goes down lasts from now on, and all others last as long as before. -/
theorem Keyboard.due_renewed (htyped : ∀ event ∈ typed, ∃ key, event = .down key ∧ key.toNat < 16)
    (now : Nat) (holds : Holds) (k : Fin 16) :
    (typed.foldl (Keyboard.renew now) holds).due.get k =
      if typed.any (KeyEvent.downs k) then some (now + holds.hold) else holds.due.get k := by
  induction typed generalizing holds with
  | nil => rfl
  | cons event rest ih =>
    rw [List.forall_mem_cons] at htyped
    obtain ⟨⟨key, rfl, hkey⟩, hrest⟩ := htyped
    have hslot : Machine.slot key = k ↔ key.toNat = k := by
      rw [Fin.ext_iff]
      simp only [Machine.slot]
      omega
    rw [List.foldl_cons, ih hrest, List.any_cons]
    have hhold : (Keyboard.renew now holds (.down key)).hold = holds.hold := rfl
    rw [hhold]
    by_cases hk : key.toNat = k
    · have hdue : (Keyboard.renew now holds (.down key)).due.get k = some (now + holds.hold) := by
        rw [← hslot.mpr hk]
        exact Holds.due_press_self holds key now
      simp [KeyEvent.downs, hk, hdue]
    · have hdue : (Keyboard.renew now holds (.down key)).due.get k = holds.due.get k :=
        Holds.due_press_ne holds now fun h => hk (hslot.mp h.symm)
      simp [KeyEvent.downs, hk, hdue]

end

/-- Keys that go up open their latches. -/
theorem latchAfter_ups (keys : List (Fin 16)) (k : Fin 16) (held : Bool) :
    latchAfter k held ((keys.map fun key => UInt8.ofNat key.val).map .up) =
      (held && !keys.contains k) := by
  induction keys generalizing held with
  | nil => simp [latchAfter]
  | cons key rest ih =>
    have hbyte : (UInt8.ofNat key).toNat = k ↔ k = key := by
      rw [toNat_ofNat_key, Fin.ext_iff, eq_comm]
    have hlatch : latchAfter k held (((key :: rest).map fun key => UInt8.ofNat key.val).map .up) =
        latchAfter k (held && decide ((UInt8.ofNat key).toNat ≠ k))
          ((rest.map fun key => UInt8.ofNat key.val).map .up) := rfl
    rw [hlatch, ih, Bool.and_assoc, List.contains_cons, Bool.not_or]
    simp only [ne_eq, hbyte, decide_not]
    rfl

/-- The releases of a poll open the latches of the keys whose hold is over. -/
theorem latchAfter_released (h : Holds) (now : Nat) (k : Fin 16) (held : Bool) :
    latchAfter k held ((h.release now).1.map .up) = (held && !Holds.isDue now (h.due.get k)) := by
  rw [Holds.release, latchAfter_ups]
  simp [Holds.expired]

theorem Holds.due_dropExpired (h : Holds) (now : Nat) (k : Fin 16) :
    (h.dropExpired now).due.get k =
      if Holds.isDue now (h.due.get k) then Option.none else h.due.get k :=
  Vector.getElem_map _ k.isLt

/-- What is not due yet is later than now. -/
theorem Holds.eq_filter_of_due (now : Nat) (time : Option Nat) :
    (if Holds.isDue now time then Option.none else time) = time.filter (now < ·) := by
  cases time with
  | none => rfl
  | some time =>
    by_cases hdue : time ≤ now
    · have hnow : ¬ now < time := by omega
      simp [Holds.isDue, Option.filter, hdue, hnow]
    · have hnow : now < time := by omega
      simp [Holds.isDue, Option.filter, hdue, hnow]

/-! ## Section 3: Rounds -/

/-- Is this an operation that reaches no latch? -/
def Operation.sparesLatches : Operation → Bool
  | .step | .execute _ | .tick => true
  | .load _ | .keyDown _ | .keyUp _ => false

theorem Operation.isLoad_of_spares {operation : Operation} (h : operation.sparesLatches = true) :
    operation.isLoad = false := by
  cases operation with
  | load => cases h
  | _ => rfl

theorem KeyEvent.isLoad_operation? {event : KeyEvent} {operation : Operation}
    (h : event.operation? = some operation) : operation.isLoad = false := by
  cases event with
  | quit => cases h
  | _ =>
    cases h
    rfl

theorem latch_rest {rest : List Operation}
    (h : ∀ operation ∈ rest, operation.sparesLatches = true) (k : Fin 16) (held : Bool) :
    rest.foldl (fun held operation => operation.latch k held) held = held := by
  induction rest with
  | nil => rfl
  | cons operation rest ih =>
    rw [List.forall_mem_cons] at h
    obtain ⟨hspares, hrest⟩ := h
    rw [List.foldl_cons]
    cases operation with
    | load | keyDown | keyUp => cases hspares
    | step | execute | tick => exact ih hrest

/-- A poll of the keyboard, and what is done with the interpreter before the next one. -/
structure Round where
  /-- The time of the poll. -/
  now : Nat
  /-- What the terminal has to report by then. -/
  reports : List TerminalEvent
  rest : List Operation

/-- Nobody wants to stop, and besides the poll nothing reaches the latches. -/
structure Round.Plain (round : Round) : Prop where
  reports : ∀ report ∈ round.reports, report.quits = false
  rest : ∀ operation ∈ round.rest, operation.sparesLatches = true

instance (round : Round) : Decidable round.Plain :=
  decidable_of_iff ((∀ report ∈ round.reports, report.quits = false) ∧
    ∀ operation ∈ round.rest, operation.sparesLatches = true)
    ⟨fun h => ⟨h.1, h.2⟩, fun h => ⟨h.reports, h.rest⟩⟩

/-- When a key was typed last, if it was. -/
def lastTyped (layout : Layout) (k : Fin 16) (rounds : List Round) : Option Nat :=
  (rounds.reverse.find? fun round => round.reports.any (·.types layout k)).map Round.now

theorem lastTyped_append (layout : Layout) (k : Fin 16) (rounds : List Round) (round : Round) :
    lastTyped layout k (rounds ++ [round]) =
      if round.reports.any (·.types layout k) then some round.now
      else lastTyped layout k rounds := by
  unfold lastTyped
  rw [List.reverse_append, List.reverse_singleton, List.singleton_append, List.find?_cons]
  split
  · next htypes => rw [if_pos htypes]; rfl
  · next htypes => rw [if_neg (by simp [htypes])]

/-- A keyboard, and the interpreter that its events are applied to. -/
structure Desk (σ : Type) where
  keyboard : Keyboard
  interpreter : Interpreter σ

namespace Desk

variable {σ : Type}

/-- One round: the keyboard is read, its events are applied in order, and then comes the rest. -/
def play [ByteSource σ] (desk : Desk σ) (round : Round) : Desk σ :=
  let turn := Keyboard.read round.now round.reports desk.keyboard
  let events := turn.result.toOption.getD []
  let operations := events.filterMap KeyEvent.operation? ++ round.rest
  ⟨turn.state, Interpreter.run operations desk.interpreter⟩

/-- One round after another. -/
def after [ByteSource σ] (rounds : List Round) (desk : Desk σ) : Desk σ := rounds.foldl play desk

/-- The holds of the keyboard after the presses of a round, and before its releases. -/
def renewed (desk : Desk σ) (round : Round) : Holds :=
  (round.reports.filterMap (TerminalEvent.event? desk.keyboard.layout)).foldl
    (Keyboard.renew round.now) desk.keyboard.holds

section

variable (desk : Desk σ) {round : Round}

theorem due_renewed (hplain : round.Plain) (k : Fin 16) :
    (desk.renewed round).due.get k =
      if round.reports.any (·.types desk.keyboard.layout k) then
        some (round.now + desk.keyboard.holds.hold)
      else desk.keyboard.holds.due.get k := by
  rw [renewed, Keyboard.due_renewed (events_eq_down hplain.reports), any_downs hplain.reports]

variable [ByteSource σ]

theorem keyboard_play : (desk.play round).keyboard =
    { desk.keyboard with holds := (desk.renewed round).dropExpired round.now } :=
  (Keyboard.read_eq round.now round.reports desk.keyboard).2

/-- In a round a latch is closed by a press and opened by the release that is due. -/
theorem latch_play (hplain : round.Plain) (k : Fin 16) :
    (desk.play round).interpreter.machine.keys.get k =
      ((desk.interpreter.machine.keys.get k ||
          round.reports.any (·.types desk.keyboard.layout k)) &&
        !Holds.isDue round.now ((desk.renewed round).due.get k)) := by
  let typed := round.reports.filterMap (TerminalEvent.event? desk.keyboard.layout)
  let released := ((desk.renewed round).release round.now).1.map KeyEvent.up
  have hresult := (Keyboard.read_eq round.now round.reports desk.keyboard).1
  have hplay : (desk.play round).interpreter =
      Interpreter.run ((typed ++ released).filterMap KeyEvent.operation? ++ round.rest)
        desk.interpreter := by
    simp only [play, hresult]
    rfl
  have hload : ∀ operation ∈ (typed ++ released).filterMap KeyEvent.operation? ++ round.rest,
      operation.isLoad = false := by
    rw [List.forall_mem_append]
    refine ⟨?_, fun operation hmem => Operation.isLoad_of_spares (hplain.rest operation hmem)⟩
    intro operation hmem
    obtain ⟨event, -, hevent⟩ := List.mem_filterMap.mp hmem
    exact KeyEvent.isLoad_operation? hevent
  rw [hplay, Interpreter.latch_run hload, List.foldl_append, latch_rest hplain.rest]
  calc latchAfter k (desk.interpreter.machine.keys.get k) (typed ++ released)
    _ = latchAfter k (latchAfter k (desk.interpreter.machine.keys.get k) typed) released :=
      latchAfter_append k _ typed released
    _ = _ := by
      rw [latchAfter_released, latchAfter_typed (events_eq_down hplain.reports),
        any_downs hplain.reports]

end

/-- The keyboard and the latch of a key, after rounds the last of which was at `now`. -/
structure Follows (layout : Layout) (hold : Nat) (k : Fin 16) (now : Nat) (rounds : List Round)
    (desk : Desk σ) : Prop where
  layout_eq : desk.keyboard.layout = layout
  hold_eq : desk.keyboard.holds.hold = hold
  /-- There is a release to come if the hold of the key is not over. -/
  due : desk.keyboard.holds.due.get k =
    ((lastTyped layout k rounds).map (· + hold)).filter (now < ·)
  /-- And then its latch is closed. -/
  latch : desk.interpreter.machine.keys.get k = (desk.keyboard.holds.due.get k).isSome

variable {layout : Layout} {hold : Nat} {k : Fin 16} {now : Nat} {rounds : List Round}
  {desk : Desk σ}

/-- A key that was never typed on an idle keyboard is followed at any time. -/
theorem follows_nil (layout : Layout) (hold : Nat) {i : Interpreter σ} {k : Fin 16}
    (h : i.machine.keys.get k = false) (now : Nat) :
    Follows layout hold k now [] ⟨.idle layout hold, i⟩ where
  layout_eq := rfl
  hold_eq := rfl
  due := by
    have hdue : (Holds.none hold).due.get k = Option.none := by simp [Holds.none, Vector.get]
    exact hdue
  latch := by
    have hdue : (Holds.none hold).due.get k = Option.none := by simp [Holds.none, Vector.get]
    exact h.trans (congrArg Option.isSome hdue).symm

variable [ByteSource σ]

theorem Follows.play (h : Follows layout hold k now rounds desk) {round : Round}
    (hnow : now ≤ round.now) (hplain : round.Plain) :
    Follows layout hold k round.now (rounds ++ [round]) (desk.play round) := by
  have hdue := desk.due_renewed hplain k
  rw [h.layout_eq, h.hold_eq] at hdue
  have hafter : (desk.play round).keyboard.holds.due.get k =
      ((desk.renewed round).due.get k).filter (round.now < ·) := by
    rw [keyboard_play, ← Holds.eq_filter_of_due]
    exact Holds.due_dropExpired _ _ _
  refine ⟨?_, ?_, ?_, ?_⟩
  · rw [keyboard_play]
    exact h.layout_eq
  · rw [keyboard_play]
    exact (Keyboard.hold_renewed _ _).trans h.hold_eq
  · rw [hafter, hdue, lastTyped_append]
    split
    · rfl
    · -- what is later than this poll is later than the one before
      rw [h.due, Option.filter_filter]
      congr 1
      funext time
      rw [Bool.eq_iff_iff]
      simp
      omega
  · have hclosed : (desk.interpreter.machine.keys.get k ||
        round.reports.any (·.types layout k)) = ((desk.renewed round).due.get k).isSome := by
      rw [hdue, h.latch]
      split
      · next htypes => simp [htypes]
      · next htypes => simp [htypes]
    rw [hafter, latch_play desk hplain, h.layout_eq, hclosed, ← Holds.eq_filter_of_due]
    split
    · next hover => simp [hover]
    · next hover => simp [hover]

/-- The same after rounds at times that do not run backwards, and up to the last of these. -/
theorem Follows.after (h : Follows layout hold k now rounds desk) {later : List Round}
    (hordered : later.Pairwise fun earlier later => earlier.now ≤ later.now)
    (hnow : ∀ round ∈ later, now ≤ round.now) (hplain : ∀ round ∈ later, round.Plain) :
    Follows layout hold k ((later.map Round.now).getLastD now) (rounds ++ later)
      (desk.after later) := by
  induction later generalizing now rounds desk with
  | nil =>
    rw [List.append_nil]
    exact h
  | cons round later ih =>
    rw [List.pairwise_cons] at hordered
    rw [List.forall_mem_cons] at hnow hplain
    have hround := h.play hnow.1 hplain.1
    have hlater := ih hround hordered.2 hordered.1 hplain.2
    rw [List.append_assoc, List.singleton_append] at hlater
    rw [List.map_cons, List.getLastD_cons]
    exact hlater

end Desk

/-! ## Section 4: What makes no difference -/

namespace TerminalEvent

/-- Does a report say anything: that the user wants to stop, or that a key is typed? -/
def speaks (layout : Layout) (report : TerminalEvent) : Bool :=
  report.quits || (List.finRange 16).any (report.types layout ·)

/-- Reports that are the same but for the case of a character. With the control key a `c` in lower
    case is the wish to stop and one in upper case is not; these two are not the same. -/
inductive SameButCase : TerminalEvent → TerminalEvent → Prop
  | same (report : TerminalEvent) : SameButCase report report
  | char (c d : Char) (control alt : Bool) (hcase : c.toLower = d.toLower)
      (hplain : ¬ (c.toLower = 'c' ∧ control = true)) :
    SameButCase (.key { code := .char c, control, alt }) (.key { code := .char d, control, alt })

theorem speaks_of_event? {layout : Layout} {report : TerminalEvent} {event : KeyEvent}
    (h : report.event? layout = some event) : report.speaks layout = true := by
  cases hquits : report.quits with
  | true => simp [speaks, hquits]
  | false =>
    obtain ⟨key, rfl, hkey⟩ := event?_eq_down hquits h
    have htypes := downs_event? hquits layout ⟨key.toNat, hkey⟩
    rw [h] at htypes
    have htyped : report.types layout ⟨key.toNat, hkey⟩ = true := by
      rw [← htypes]
      simp [KeyEvent.downs]
    rw [speaks, Bool.or_eq_true, List.any_eq_true]
    exact .inr ⟨_, List.mem_finRange _, htyped⟩

theorem SameButCase.event?_eq {report report' : TerminalEvent} (h : SameButCase report report')
    (layout : Layout) : report.event? layout = report'.event? layout := by
  cases h with
  | same => rfl
  | char c d control alt hcase hplain =>
    have hc : ¬ (c = 'c' ∧ control = true) := by
      rintro ⟨rfl, hcontrol⟩
      exact hplain ⟨rfl, hcontrol⟩
    have hd : ¬ (d = 'c' ∧ control = true) := by
      rintro ⟨rfl, hcontrol⟩
      exact hplain ⟨hcase, hcontrol⟩
    simp only [event?, if_neg hc, if_neg hd, hcase]

end TerminalEvent

/-- Polls give the same and leave the same keyboard. -/
def Keyboard.ReadAlike (now : Nat) (k : Keyboard) (reports reports' : List TerminalEvent) : Prop :=
  (read now reports' k).result = (read now reports k).result ∧
    (read now reports' k).state = (read now reports k).state

/-- Nothing counts but the events that come of the reports. -/
theorem Keyboard.readAlike {k : Keyboard} {reports reports' : List TerminalEvent}
    (h : reports'.filterMap (TerminalEvent.event? k.layout) =
      reports.filterMap (TerminalEvent.event? k.layout)) (now : Nat) :
    ReadAlike now k reports reports' := by
  obtain ⟨hresult, hstate⟩ := read_eq now reports k
  obtain ⟨hresult', hstate'⟩ := read_eq now reports' k
  rw [h] at hresult' hstate'
  exact ⟨hresult'.trans hresult.symm, hstate'.trans hstate.symm⟩

theorem Keyboard.readAlike_filter (now : Nat) (k : Keyboard) (reports : List TerminalEvent) :
    ReadAlike now k reports (reports.filter (·.speaks k.layout)) := by
  apply readAlike
  rw [List.filterMap_filter]
  apply List.filterMap_congr
  intro report _
  split
  · rfl
  · next hsilent =>
    cases hevent : report.event? k.layout with
    | none => rfl
    | some event => exact absurd (TerminalEvent.speaks_of_event? hevent) hsilent

theorem Keyboard.readAlike_of_sameButCase (now : Nat) (k : Keyboard)
    {reports reports' : List TerminalEvent}
    (h : List.Forall₂ TerminalEvent.SameButCase reports reports') :
    ReadAlike now k reports reports' := by
  apply readAlike
  induction h with
  | nil => rfl
  | cons hhead _ ih => rw [List.filterMap_cons, List.filterMap_cons, hhead.event?_eq, ih]

/-! ## Section 5: The main result -/

namespace Desk

variable {σ : Type} [ByteSource σ]

/-- An idle keyboard is read again and again, at times that do not run backwards, and its events are
    applied to an interpreter on which no key is held to start with; in between there may be any
    operations but loads and other key events, and nobody wants to stop. Then after each poll the
    latch of a key is closed exactly if the key was typed, with a character that has it in lower
    case, and its hold since it was typed last is not over. No poll fails. Reports that say nothing
    make no difference to a poll, and neither does the case of a character, but for the wish to
    stop. -/
theorem latched_iff_typed_within_hold (layout : Layout) (hold : Nat) (i : Interpreter σ)
    (hopen : ∀ k : Fin 16, i.machine.keys.get k = false) (rounds : List Round) (last : Round)
    (hordered : (rounds ++ [last]).Pairwise fun earlier later => earlier.now ≤ later.now)
    (hplain : ∀ round ∈ rounds ++ [last], round.Plain) :
    let desk := Desk.after (rounds ++ [last]) ⟨.idle layout hold, i⟩
    (∀ k : Fin 16, desk.interpreter.machine.keys.get k = true ↔
      ∃ time, lastTyped layout k (rounds ++ [last]) = some time ∧ last.now < time + hold) ∧
    ∀ (now : Nat) (keyboard : Keyboard) (reports : List TerminalEvent),
      (∃ events, (Keyboard.read now reports keyboard).result = .ok events) ∧
      Keyboard.ReadAlike now keyboard reports (reports.filter (·.speaks keyboard.layout)) ∧
      ∀ reports', List.Forall₂ TerminalEvent.SameButCase reports reports' →
        Keyboard.ReadAlike now keyboard reports reports' := by
  intro desk
  refine ⟨?_, ?_⟩
  · intro k
    have hstart := follows_nil layout hold (hopen k) 0
    have hfollows := hstart.after hordered (fun _ _ => Nat.zero_le _) hplain
    rw [List.map_append, List.map_singleton, List.getLastD_concat, List.nil_append] at hfollows
    rw [hfollows.latch, hfollows.due]
    cases lastTyped layout k (rounds ++ [last]) with
    | none => simp
    | some time => simp
  · intro now keyboard reports
    exact ⟨⟨_, (Keyboard.read_eq now reports keyboard).1⟩,
      Keyboard.readAlike_filter now keyboard reports,
      fun reports' => Keyboard.readAlike_of_sameButCase now keyboard⟩

/-- The report of a character. -/
def typing (c : Char) : TerminalEvent := .key { code := .char c }

/-- Polls with characters in both cases, and with reports that say nothing. -/
def threeRounds : List Round :=
  [⟨0, [typing 'q', .position, typing 'p', .key { code := .up }], [.step, .tick]⟩,
   ⟨60, [typing 'Q', typing 'v'], [.execute (.waitKey 3)]⟩,
   ⟨100, [.other, typing 'x'], []⟩]

/-- A poll by which two keys are due, one of which is typed again. -/
def fourthRound : Round :=
  ⟨160, [typing 'V', .key { code := .char 'C', control := true }], [.step]⟩

/-- With a hold of 100, the key of `q` was typed last at 60 and has gone up at 160, on time; that of
    `v` has not, and the holds of `x` and of a capital `C` with the control key go on. -/
theorem latches_at_the_fourth_poll :
    let i : Interpreter Stride := Interpreter.fresh ⟨1, 0⟩
    (∀ k : Fin 16, i.machine.keys.get k = false) ∧
    (threeRounds ++ [fourthRound]).Pairwise (fun earlier later => earlier.now ≤ later.now) ∧
    (∀ round ∈ threeRounds ++ [fourthRound], round.Plain) ∧
    let m := (Desk.after (threeRounds ++ [fourthRound]) ⟨.idle .qwerty 100, i⟩).interpreter.machine
    m.keys.get 0x4 = false ∧ m.keys.get 0xf = true ∧ m.keys.get 0x0 = true ∧
    m.keys.get 0xb = true := by
  intro i
  have hopen : ∀ k : Fin 16, i.machine.keys.get k = false := by decide
  have hordered : (threeRounds ++ [fourthRound]).Pairwise
      fun earlier later => earlier.now ≤ later.now := by decide
  have hplain : ∀ round ∈ threeRounds ++ [fourthRound], round.Plain := by decide
  obtain ⟨hlatch, -⟩ :=
    latched_iff_typed_within_hold .qwerty 100 i hopen threeRounds fourthRound hordered hplain
  have hq : lastTyped .qwerty 0x4 (threeRounds ++ [fourthRound]) = some 60 := by decide
  refine ⟨hopen, hordered, hplain, ?_, (hlatch 0xf).mpr ⟨160, by decide, by decide⟩,
    (hlatch 0x0).mpr ⟨100, by decide, by decide⟩, (hlatch 0xb).mpr ⟨160, by decide, by decide⟩⟩
  rw [← Bool.not_eq_true, hlatch 0x4, hq]
  rintro ⟨time, ⟨⟩, hheld⟩
  exact absurd hheld (by decide)

end Desk

end Chip8
