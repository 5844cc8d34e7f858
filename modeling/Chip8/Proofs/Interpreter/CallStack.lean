import Chip8.Proofs.Interpreter.Alike
import Chip8.Proofs.Interpreter.Safety
import Chip8.Proofs.Machine.CallStack

/-! # The call stack as a list

    Across all operations the outstanding calls are a list with room for sixteen: calls and returns
    work at its end, a load empties it, and nothing else touches it. From this follows how runs
    nest: if the calls and returns of a run pair off within the free room, then each of them
    succeeds, each return resumes behind its own call, and the list is in the end what it was.
    Slots that are not live make no difference to a run. -/

namespace Chip8

/-! ## Section 1: Well-nested moves -/

/-- What an operation wants to do to the list of outstanding calls. -/
inductive StackMove where
  | push | pop | keep | empty
  deriving DecidableEq

/-- With `opened` calls to start with, the moves take back every call, take back no other, and have
    at most `limit` outstanding at a time. -/
def StackMove.Nested (limit : Nat) : Nat → List StackMove → Prop
  | opened, [] => opened = 0
  | opened, .push :: later => opened < limit ∧ Nested limit (opened + 1) later
  | opened, .pop :: later => 0 < opened ∧ Nested limit (opened - 1) later
  | opened, .keep :: later => Nested limit opened later
  | _, .empty :: _ => False

instance StackMove.decidableNested (limit : Nat) :
    ∀ (opened : Nat) (moves : List StackMove), Decidable (Nested limit opened moves)
  | opened, [] => inferInstanceAs (Decidable (opened = 0))
  | opened, .push :: later =>
    have := decidableNested limit (opened + 1) later
    inferInstanceAs (Decidable (opened < limit ∧ Nested limit (opened + 1) later))
  | opened, .pop :: later =>
    have := decidableNested limit (opened - 1) later
    inferInstanceAs (Decidable (0 < opened ∧ Nested limit (opened - 1) later))
  | opened, .keep :: later => decidableNested limit opened later
  | _, .empty :: _ => inferInstanceAs (Decidable False)

-- two calls inside each other need a limit of two
example : StackMove.Nested 2 0 [.push, .keep, .push, .pop, .pop] ∧
    ¬ StackMove.Nested 1 0 [.push, .keep, .push, .pop, .pop] := by decide

/-- Moves that nest by themselves do so within the limit of the moves that they are part of. -/
theorem StackMove.Nested.inner {limit n opened own : Nat} {body rest : List StackMove}
    (houter : Nested limit (opened + own) (body ++ rest)) (hinner : Nested n own body) :
    Nested (limit - opened) own body := by
  -- the body opens the same calls in both, on top of `opened` in the one and of none in the other
  induction body generalizing own with
  | nil => exact hinner
  | cons move later ih =>
    cases move with
    | push =>
      obtain ⟨hroom, houter⟩ := houter
      obtain ⟨-, hinner⟩ := hinner
      exact ⟨by omega, ih houter hinner⟩
    | pop =>
      obtain ⟨-, houter⟩ := houter
      obtain ⟨hown, hinner⟩ := hinner
      rw [Nat.add_sub_assoc hown] at houter
      exact ⟨hown, ih houter hinner⟩
    | keep => exact ih houter hinner
    | empty => exact hinner

/-- What an instruction wants to do to the list. -/
def Opcode.stackMove : Opcode → StackMove
  | .call _ => .push
  | .ret => .pop
  | _ => .keep

namespace Interpreter

/-! ## Section 2: One operation -/

variable {σ : Type}

/-- Where a call comes back to: under a step, behind the word at the program counter. -/
def returnAddress (i : Interpreter σ) : Operation → UInt16
  | .step => i.machine.pc + 2
  | _ => i.machine.pc

theorem calls_atExecution (i : Interpreter σ) (operation : Operation) :
    (i.atExecution operation).machine.calls = i.machine.calls := by
  cases operation <;> rfl

theorem pc_atExecution (i : Interpreter σ) (operation : Operation) :
    (i.atExecution operation).machine.pc = i.returnAddress operation := by
  cases operation <;> rfl

variable [ByteSource σ] {i j : Interpreter σ} {operation : Operation}
  {result : Except Fault (Option Nat)}

/-- An operation treats the outstanding calls as a list with room for sixteen. -/
structure FollowsList (i : Interpreter σ) (operation : Operation)
    (result : Except Fault (Option Nat)) (j : Interpreter σ) : Prop where
  /-- A call succeeds exactly if there is room. -/
  call_iff : ∀ nnn, attempted? i operation = some (.call nnn) →
    (result = .ok none ↔ i.machine.calls.length < 16)
  /-- It then adds its return address and jumps. -/
  call : ∀ nnn, attempted? i operation = some (.call nnn) → result = .ok none →
    j.machine.calls = i.machine.calls ++ [i.returnAddress operation] ∧ j.machine.pc = nnn
  /-- A return succeeds exactly if there is an entry. -/
  ret_iff : attempted? i operation = some .ret → (result = .ok none ↔ i.machine.calls ≠ [])
  /-- It then takes the last entry off and goes there. -/
  ret : attempted? i operation = some .ret → result = .ok none →
    i.machine.calls = j.machine.calls ++ [j.machine.pc]
  /-- A load that succeeds empties the list. -/
  loaded : ∀ program size, operation = .load program → result = .ok size → j.machine.calls = []
  /-- Whatever fails leaves the list as it was. -/
  failed : ∀ fault, result = .error fault → j.machine.calls = i.machine.calls
  /-- So does everything that is no call, no return and no load. -/
  other : (∀ program, operation ≠ .load program) →
    (∀ nnn, attempted? i operation ≠ some (.call nnn)) → attempted? i operation ≠ some .ret →
    j.machine.calls = i.machine.calls

theorem Outcome.ok_iff {op : Opcode} (ho : Outcome i operation result j)
    (hop : attempted? i operation = some op) :
    result = .ok none ↔
      ∃ m, (i.atExecution operation).machine.execute (ByteSource.next i.source).1 op = .ok m := by
  rcases ho.of_attempted hop with ⟨m, hexecute, rfl, -⟩ | ⟨fault, hexecute, rfl, -⟩
  · simp [hexecute]
  · simp [hexecute]

theorem Outcome.calls_of_error {fault : Fault} (ho : Outcome i operation (.error fault) j) :
    j.machine.calls = i.machine.calls := by
  cases ho with
  | notLoaded | notFetched | noKeyDown | noKeyUp => rfl
  | refused hop hexecute => exact calls_atExecution i operation

theorem Outcome.calls_of_other (ho : Outcome i operation result j)
    (hload : ∀ program, operation ≠ .load program)
    (hcall : ∀ nnn, attempted? i operation ≠ some (.call nnn))
    (hret : attempted? i operation ≠ some .ret) : j.machine.calls = i.machine.calls := by
  cases ho with
  | loaded => exact absurd rfl (hload _)
  | notLoaded | parked | notFetched | ticked | noKeyDown | noKeyUp => rfl
  | executed hop hexecute =>
    rw [hop] at hcall hret
    have hsame := Machine.execute_calls hexecute (fun nnn h => hcall nnn (congrArg some h))
      (fun h => hret (congrArg some h))
    exact hsame.trans (calls_atExecution i operation)
  | refused hop hexecute => exact calls_atExecution i operation
  | keyWentDown hdown =>
    have hgraft := Machine.graft_of_keyDown [.stack] hdown (by decide) (by decide) (by decide)
    exact (congrArg Machine.calls hgraft).symm
  | keyWentUp hup =>
    have hgraft := Machine.graft_of_keyUp [.stack] hup (by decide)
    exact (congrArg Machine.calls hgraft).symm

theorem Outcome.followsList (ho : Outcome i operation result j) (hi : i.machine.depth ≤ 16) :
    FollowsList i operation result j := by
  have hdepth : (i.atExecution operation).machine.depth = i.machine.depth := by
    cases operation <;> rfl
  have hexecution : (i.atExecution operation).machine.depth ≤ 16 := hdepth ▸ hi
  have hcalls := calls_atExecution i operation
  have hlength := Machine.length_calls hi
  refine ⟨?_, ?_, ?_, ?_, ?_, ?_, ho.calls_of_other⟩
  · intro nnn hop
    rw [ho.ok_iff hop, hlength, ← hdepth]
    exact Machine.enter_succeeds_iff nnn
  · intro nnn hop hresult
    rcases ho.of_attempted hop with ⟨m, hexecute, -, rfl⟩ | ⟨fault, -, rfl, -⟩
    · rw [← hcalls, ← pc_atExecution]
      exact Machine.enter_calls hexecute
    · cases hresult
  · intro hop
    rw [ho.ok_iff hop, ← List.length_pos_iff, hlength, ← hdepth]
    exact Machine.leave_succeeds_iff hexecution
  · intro hop hresult
    rcases ho.of_attempted hop with ⟨m, hexecute, -, rfl⟩ | ⟨fault, -, rfl, -⟩
    · rw [← hcalls]
      exact Machine.leave_calls hexecution hexecute
    · cases hresult
  · -- no instruction comes of a load, so what succeeded is the load itself
    rintro program size rfl rfl
    cases ho with
    | loaded hload => rfl
    | executed hop => cases hop
  · rintro fault rfl
    exact ho.calls_of_error

/-! ## Section 3: Runs that nest -/

/-- What an operation wants to do to the list; a load that fails wants nothing. -/
def stackMove (i : Interpreter σ) (operation : Operation) : StackMove :=
  match attempted? i operation, operation, (perform operation i).result with
  | some op, _, _ => op.stackMove
  | none, .load _, .ok _ => .empty
  | none, _, _ => .keep

/-- The moves of a run, in order. -/
def moves : List Operation → Interpreter σ → List StackMove
  | [], _ => []
  | operation :: later, i => i.stackMove operation :: moves later (perform operation i).state

theorem moves_append (earlier later : List Operation) (i : Interpreter σ) :
    moves (earlier ++ later) i = moves earlier i ++ moves later (run earlier i) := by
  induction earlier generalizing i with
  | nil => rfl
  | cons operation rest ih => exact congrArg (_ :: ·) (ih (perform operation i).state)

theorem stackMove_of_attempted {op : Opcode} (hop : attempted? i operation = some op) :
    i.stackMove operation = op.stackMove := by
  simp only [stackMove, hop]

/-- Without an instruction nothing is added and nothing taken off. -/
theorem stackMove_of_none (hop : attempted? i operation = none) :
    i.stackMove operation ≠ .push ∧ i.stackMove operation ≠ .pop := by
  unfold stackMove
  rw [hop]
  split
  · contradiction
  · exact ⟨nofun, nofun⟩
  · exact ⟨nofun, nofun⟩

theorem attempted_of_push (h : i.stackMove operation = .push) :
    ∃ nnn, attempted? i operation = some (.call nnn) := by
  cases hop : attempted? i operation with
  | none => exact absurd h (stackMove_of_none hop).1
  | some op =>
    rw [stackMove_of_attempted hop] at h
    cases op with
    | call nnn => exact ⟨nnn, rfl⟩
    | _ => cases h

theorem attempted_of_pop (h : i.stackMove operation = .pop) :
    attempted? i operation = some .ret := by
  cases hop : attempted? i operation with
  | none => exact absurd h (stackMove_of_none hop).2
  | some op =>
    rw [stackMove_of_attempted hop] at h
    cases op with
    | ret => rfl
    | _ => cases h

theorem followsList (hi : i.machine.depth ≤ 16) (operation : Operation) :
    FollowsList i operation (perform operation i).result (perform operation i).state :=
  (perform_outcome i operation).followsList hi

/-- What wants nothing changes nothing. -/
theorem calls_of_keep (hi : i.machine.depth ≤ 16) (h : i.stackMove operation = .keep) :
    (perform operation i).state.machine.calls = i.machine.calls := by
  have hlist := followsList hi operation
  -- a call or a return would want something
  have hcall : ∀ nnn, attempted? i operation ≠ some (.call nnn) := by
    intro nnn hop
    exact nomatch (stackMove_of_attempted hop).symm.trans h
  have hret : attempted? i operation ≠ some .ret := by
    intro hop
    exact nomatch (stackMove_of_attempted hop).symm.trans h
  cases hresult : (perform operation i).result with
  | error fault => exact hlist.failed fault hresult
  | ok size =>
    refine hlist.other ?_ hcall hret
    rintro program rfl
    -- a load that succeeds would empty the list
    simp [stackMove, attempted?, hresult] at h

/-- A call within the free room succeeds and adds its return address. -/
theorem calls_of_push (hi : i.machine.depth ≤ 16) (h : i.stackMove operation = .push)
    (hroom : i.machine.calls.length < 16) :
    (perform operation i).result = .ok none ∧
      (perform operation i).state.machine.calls =
        i.machine.calls ++ [i.returnAddress operation] := by
  obtain ⟨nnn, hop⟩ := attempted_of_push h
  have hlist := followsList hi operation
  have hresult := (hlist.call_iff nnn hop).mpr hroom
  exact ⟨hresult, (hlist.call nnn hop hresult).1⟩

/-- A return with an entry succeeds, goes there and takes it off. -/
theorem calls_of_pop (hi : i.machine.depth ≤ 16) (h : i.stackMove operation = .pop)
    (hcalls : i.machine.calls ≠ []) :
    (perform operation i).result = .ok none ∧
      i.machine.calls = (perform operation i).state.machine.calls ++
        [(perform operation i).state.machine.pc] := by
  have hop := attempted_of_pop h
  have hlist := followsList hi operation
  have hresult := (hlist.ret_iff hop).mpr hcalls
  exact ⟨hresult, hlist.ret hop hresult⟩

/-- One operation of a nested run changes nothing below the calls that the run has opened. -/
theorem calls_step_nested {limit : Nat} {base opened : List UInt16} {later : List StackMove}
    (hcalls : i.machine.calls = base ++ opened) (hi : i.machine.depth ≤ 16)
    (hlimit : base.length + limit ≤ 16)
    (hnested : StackMove.Nested limit opened.length (i.stackMove operation :: later)) :
    ∃ opened', (perform operation i).state.machine.calls = base ++ opened' ∧
      StackMove.Nested limit opened'.length later := by
  cases hmove : i.stackMove operation with
  | push =>
    rw [hmove] at hnested
    obtain ⟨hroom, hlater⟩ := hnested
    have hlength : i.machine.calls.length < 16 := by
      rw [hcalls, List.length_append]
      omega
    obtain ⟨-, hafter⟩ := calls_of_push hi hmove hlength
    rw [hcalls, List.append_assoc] at hafter
    exact ⟨_, hafter, by simpa using hlater⟩
  | pop =>
    rw [hmove] at hnested
    obtain ⟨hopened, hlater⟩ := hnested
    -- the entry that is taken off is one that the run has opened itself
    have hsome : opened ≠ [] := List.length_pos_iff.mp hopened
    obtain ⟨-, hbefore⟩ := calls_of_pop hi hmove (by simp [hcalls, hsome])
    have hafter : (perform operation i).state.machine.calls = base ++ opened.dropLast := by
      have hdrop := congrArg List.dropLast hbefore
      rw [List.dropLast_concat, hcalls, List.dropLast_append_of_ne_nil hsome] at hdrop
      exact hdrop.symm
    exact ⟨_, hafter, by simpa using hlater⟩
  | keep =>
    rw [hmove] at hnested
    have hafter := calls_of_keep hi hmove
    exact ⟨opened, hafter.trans hcalls, hnested⟩
  | empty =>
    rw [hmove] at hnested
    exact hnested.elim

/-- The same along a run, or along the first part of one. -/
theorem calls_along_nested {limit : Nat} {base opened : List UInt16} {history : List Operation}
    {rest : List StackMove} (hcalls : i.machine.calls = base ++ opened) (hi : i.machine.Sound)
    (hlimit : base.length + limit ≤ 16)
    (hnested : StackMove.Nested limit opened.length (moves history i ++ rest)) :
    ∃ opened', (run history i).machine.calls = base ++ opened' ∧
      StackMove.Nested limit opened'.length rest := by
  -- `base` stays the same throughout, and `opened` is what each operation makes of it
  induction history generalizing i opened with
  | nil => exact ⟨opened, hcalls, hnested⟩
  | cons operation later ih =>
    rw [moves, List.cons_append] at hnested
    obtain ⟨opened', hafter, hlater⟩ := calls_step_nested hcalls hi.depth_le hlimit hnested
    exact ih hafter (sound_perform hi operation) hlater

/-- A run that nests within the free room leaves the list as it was. -/
theorem calls_of_nested {limit : Nat} {history : List Operation} (hi : i.machine.Sound)
    (hlimit : i.machine.calls.length + limit ≤ 16)
    (hnested : StackMove.Nested limit 0 (moves history i)) :
    (run history i).machine.calls = i.machine.calls := by
  -- nothing is opened before the run, so the list is the base
  have hwhole : StackMove.Nested limit ([] : List UInt16).length (moves history i ++ []) := by
    simpa using hnested
  obtain ⟨opened, hcalls, hclosed⟩ :=
    calls_along_nested (List.append_nil _).symm hi hlimit hwhole
  have hnone : opened = [] := List.eq_nil_of_length_eq_zero hclosed
  rw [hcalls, hnone, List.append_nil]

/-- In a run that nests, a call and the return that takes it back both succeed, and the return goes
    to the return address of the call. That the two belong together is said by what stands between
    them: it nests by itself. -/
theorem return_resumes {limit n : Nat} {before body after : List Operation} {call ret : Operation}
    (hi : i.machine.Sound) (hlimit : i.machine.calls.length + limit ≤ 16)
    (hnested : StackMove.Nested limit 0 (moves (before ++ call :: (body ++ ret :: after)) i))
    {atCall : Interpreter σ} (hatCall : atCall = run before i)
    (hcall : atCall.stackMove call = .push)
    {atReturn : Interpreter σ} (hatReturn : atReturn = run body (perform call atCall).state)
    (hbody : StackMove.Nested n 0 (moves body (perform call atCall).state))
    (hret : atReturn.stackMove ret = .pop) :
    (perform call atCall).result = .ok none ∧ (perform ret atReturn).result = .ok none ∧
      (perform ret atReturn).state.machine.pc = atCall.returnAddress call := by
  have hsound : atCall.machine.Sound := hatCall ▸ sound_run hi before
  have hentered := sound_perform hsound call
  -- the calls that are open when `call` is performed
  rw [moves_append, ← hatCall, moves, hcall, moves_append, moves, ← hatReturn, hret] at hnested
  obtain ⟨opened, hcalls, hroom, houter⟩ :=
    calls_along_nested (List.append_nil _).symm hi hlimit hnested
  rw [← hatCall] at hcalls
  have hlength : atCall.machine.calls.length < 16 := by
    rw [hcalls, List.length_append]
    omega
  obtain ⟨hcallOk, hpushed⟩ := calls_of_push hsound.depth_le hcall hlength
  -- the body leaves the list as it is, for it has the room that is left
  have hinner : StackMove.Nested (limit - (opened.length + 1)) 0
      (moves body (perform call atCall).state) := StackMove.Nested.inner houter hbody
  have hinnerLimit : (perform call atCall).state.machine.calls.length +
      (limit - (opened.length + 1)) ≤ 16 := by
    rw [hpushed, hcalls]
    simp only [List.length_append, List.length_singleton]
    omega
  have hback : atReturn.machine.calls = atCall.machine.calls ++ [atCall.returnAddress call] := by
    rw [hatReturn, calls_of_nested hentered hinnerLimit hinner, hpushed]
  have hsoundReturn : atReturn.machine.Sound := hatReturn ▸ sound_run hentered body
  obtain ⟨hretOk, hpopped⟩ := calls_of_pop hsoundReturn.depth_le hret (by simp [hback])
  -- the list ends with the return address of the call, and the return goes where its end says
  rw [hback] at hpopped
  have hlast := (List.append_inj' hpopped rfl).2
  exact ⟨hcallOk, hretOk, (List.cons.inj hlast).1.symm⟩

/-! ## Section 4: Slots that are not live -/

/-- The interpreters differ in slots that are not live at most. -/
structure SameLive (i j : Interpreter σ) : Prop where
  machine : i.machine.SameLive j.machine
  source : j.source = i.source

/-- No history can tell the interpreters apart. -/
theorem SameLive.run (h : SameLive i j) (history : List Operation) :
    answers history j = answers history i ∧ SameLive (run history i) (run history j) := by
  have hrelated : Related Machine.SameLive i j := ⟨h.machine, h.source⟩
  obtain ⟨hanswers, hlast⟩ := hrelated.run Machine.bisimulation_sameLive history
  exact ⟨hanswers, hlast.machine, hlast.source⟩

/-! ## Section 5: The main result -/

/-- After any history, whatever is done next treats the outstanding calls as a list with room for
    sixteen. A run from there whose calls and returns nest within the free room leaves the list as
    it was, and each of its returns resumes behind the call that it takes back. Two interpreters
    that differ only in slots above the list answer alike through every history, and differ only
    in such slots after it. -/
theorem call_stack_is_bounded_list (source : σ) (earlier : List Operation) :
    let i := run earlier (fresh source)
    (∀ operation,
      FollowsList i operation (perform operation i).result (perform operation i).state) ∧
    (∀ (limit : Nat) (history : List Operation),
      i.machine.calls.length + limit ≤ 16 → StackMove.Nested limit 0 (moves history i) →
      (run history i).machine.calls = i.machine.calls ∧
      ∀ before call body ret after n, history = before ++ call :: (body ++ ret :: after) →
        let atCall := run before i
        let entered := (perform call atCall).state
        let atReturn := run body entered
        atCall.stackMove call = .push → StackMove.Nested n 0 (moves body entered) →
        atReturn.stackMove ret = .pop →
        (perform call atCall).result = .ok none ∧ (perform ret atReturn).result = .ok none ∧
        (perform ret atReturn).state.machine.pc = atCall.returnAddress call) ∧
    ∀ (j k : Interpreter σ), SameLive j k → ∀ history,
      answers history k = answers history j ∧ SameLive (run history j) (run history k) := by
  intro i
  have hsound : i.machine.Sound := sound_run Machine.sound_fresh earlier
  refine ⟨followsList hsound.depth_le, ?_, fun j k h => h.run⟩
  intro limit history hlimit hnested
  refine ⟨calls_of_nested hsound hlimit hnested, ?_⟩
  intro before call body ret after n hsplit atCall entered atReturn hcall hbody hret
  subst hsplit
  exact return_resumes hsound hlimit hnested rfl hcall rfl hbody hret

end Interpreter

end Chip8
