import Chip8.Proofs.Machine.Alike

/-! # The call stack of a machine

    Seen as a list of outstanding calls, the stack is changed by two instructions only: a call adds
    its return address at the end, and a return takes the last entry off and goes there. What lies
    above the live slots has no influence on anything, which is said with two machines:
    `SameLive m m'` holds if they differ nowhere but in such slots, and every instruction then does
    alike on both. -/

namespace Chip8

namespace Machine

variable {m after : Machine} {byte : UInt8} {op : Opcode}

/-! ## Section 1: The list of outstanding calls -/

theorem length_calls (h : m.depth ≤ 16) : m.calls.length = m.depth := by
  rw [calls, List.length_take, Vector.length_toList]
  omega

theorem enter_ok_iff (target : UInt16) :
    m.enter target = .ok after ↔
      ∃ h : m.depth < 16,
        after =
          { m with stack := m.stack.set m.depth m.pc, depth := m.depth + 1, pc := target } := by
  unfold enter
  constructor
  · intro h
    split at h
    · cases h
      exact ⟨‹_›, rfl⟩
    · cases h
  · rintro ⟨h, rfl⟩
    rw [dif_pos h]

theorem leave_ok_iff (hm : m.depth ≤ 16) :
    m.leave = .ok after ↔
      ∃ (top : Nat) (h : top < 16), m.depth = top + 1 ∧
        after = { m with depth := top, pc := m.stack[top] } := by
  constructor
  · intro h
    cases hdepth : m.depth with
    | zero =>
      simp [leave, hdepth] at h
    | succ top =>
      have htop : top < 16 := by omega
      rw [leave_of_depth hdepth htop] at h
      cases h
      exact ⟨top, htop, rfl, rfl⟩
  · rintro ⟨top, htop, hdepth, rfl⟩
    exact leave_of_depth hdepth htop

theorem enter_succeeds_iff (target : UInt16) :
    (∃ after, m.enter target = .ok after) ↔ m.depth < 16 := by
  constructor
  · rintro ⟨after, hafter⟩
    obtain ⟨hroom, -⟩ := (enter_ok_iff target).mp hafter
    exact hroom
  · intro hroom
    exact ⟨_, (enter_ok_iff target).mpr ⟨hroom, rfl⟩⟩

theorem leave_succeeds_iff (hm : m.depth ≤ 16) :
    (∃ after, m.leave = .ok after) ↔ 0 < m.depth := by
  constructor
  · rintro ⟨after, hafter⟩
    obtain ⟨top, -, hdepth, -⟩ := (leave_ok_iff hm).mp hafter
    omega
  · intro hpos
    obtain ⟨top, hdepth⟩ := Nat.exists_eq_succ_of_ne_zero (Nat.ne_of_gt hpos)
    exact ⟨_, (leave_ok_iff hm).mpr ⟨top, by omega, hdepth, rfl⟩⟩

/-- A call adds its return address. -/
theorem enter_calls {target : UInt16} (h : m.enter target = .ok after) :
    after.calls = m.calls ++ [m.pc] ∧ after.pc = target := by
  obtain ⟨hdepth, rfl⟩ := (enter_ok_iff target).mp h
  have hroom : m.depth < m.stack.toList.length := by simpa using hdepth
  refine ⟨?_, rfl⟩
  simp only [calls, Vector.toList_set]
  -- the slot that is written is the first that was not live
  rw [List.take_succ_eq_append_getElem (by rwa [List.length_set]),
    List.take_set_of_le (Nat.le_refl _), List.getElem_set_self]

/-- A return goes where the last entry says, and takes it off. -/
theorem leave_calls (hm : m.depth ≤ 16) (h : m.leave = .ok after) :
    m.calls = after.calls ++ [after.pc] := by
  obtain ⟨top, htop, hdepth, rfl⟩ := (leave_ok_iff hm).mp h
  simp only [calls, hdepth]
  rw [List.take_succ_eq_append_getElem (by simpa using htop), Vector.getElem_toList]

/-- Nothing else changes the list. -/
theorem execute_calls (h : m.execute byte op = .ok after) (hcall : ∀ nnn, op ≠ .call nnn)
    (hret : op ≠ .ret) : after.calls = m.calls := by
  cases op with
  | call nnn => exact absurd rfl (hcall nnn)
  | ret => exact absurd rfl hret
  | _ =>
    have hgraft := graft_of_execute .stack h (by simp [Opcode.footprint])
    exact (congrArg Machine.calls hgraft).symm

/-! ## Section 2: Slots that are not live -/

/-- The machines differ in slots from `depth` on at most. -/
structure SameLive (m m' : Machine) : Prop where
  rest : m' = { m with stack := m'.stack }
  slots : ∀ (k : Nat) (h : k < 16), k < m.depth → m'.stack[k] = m.stack[k]

variable {m' : Machine}

theorem SameLive.depth_eq (h : SameLive m m') : m'.depth = m.depth := by
  have hdepth := congrArg Machine.depth h.rest
  exact hdepth

/-- The other machine is this one with another stack, which agrees on the live slots. -/
theorem SameLive.exists_stack (h : SameLive m m') :
    ∃ stack : Vector UInt16 16, m' = { m with stack } ∧
      ∀ (k : Nat) (h : k < 16), k < m.depth → stack[k] = m.stack[k] :=
  ⟨m'.stack, h.rest, h.slots⟩

/-- The other machine is this one with the other stack grafted onto it. -/
theorem SameLive.eq_graft (h : SameLive m m') : m' = m.graft m' [.stack] := by
  have hdepth := h.depth_eq
  calc m' = { m with stack := m'.stack } := h.rest
    _ = { m with stack := m'.stack, depth := m'.depth } := by rw [hdepth]
    _ = m.graft m' [.stack] := by simp [graft]

/-- What leaves the stack alone on both machines keeps them alike. -/
theorem SameLive.grafted (h : SameLive m m') (hstays : after.graft m [.stack] = after) :
    SameLive after (after.graft m' [.stack]) := by
  have hdepth : after.depth = m.depth := (congrArg Machine.depth hstays).symm
  have hstack : after.stack = m.stack := (congrArg Machine.stack hstays).symm
  refine ⟨?_, ?_⟩
  · simp [graft, h.depth_eq, hdepth]
  · intro k hk hlive
    have hother := h.slots k hk (hdepth ▸ hlive)
    simpa [graft, hstack] using hother

theorem isAbout_sameLive : IsAbout SameLive [.stack] := ⟨SameLive.eq_graft, SameLive.grafted⟩

/-- A call overwrites one slot on both machines, and that one is live afterwards. -/
theorem SameLive.enter (h : SameLive m m') (target : UInt16) :
    Alike SameLive (m.enter target) (m'.enter target) := by
  obtain ⟨stack, rfl, hslots⟩ := h.exists_stack
  by_cases hdepth : m.depth < 16
  · refine .inr ⟨_, _, (enter_ok_iff target).mpr ⟨hdepth, rfl⟩,
      (enter_ok_iff target).mpr ⟨hdepth, rfl⟩, ⟨rfl, ?_⟩⟩
    intro k hk hlive
    change k < m.depth + 1 at hlive
    by_cases hnew : k = m.depth
    · -- the same return address goes into both
      subst hnew
      simp
    · have hold := hslots k hk (by omega)
      simp [hold, Ne.symm hnew]
  · exact .inl ⟨.stackOverflow, dif_neg hdepth, dif_neg hdepth⟩

/-- A return reads the highest live slot, which is the same on both. -/
theorem SameLive.leave (h : SameLive m m') : Alike SameLive m.leave m'.leave := by
  obtain ⟨stack, rfl, hslots⟩ := h.exists_stack
  cases hdepth : m.depth with
  | zero =>
    exact .inl ⟨.stackUnderflow, by simp [Machine.leave, hdepth], by simp [Machine.leave]⟩
  | succ top =>
    by_cases htop : top < 16
    · have hslot := hslots top htop (by omega)
      refine .inr ⟨_, _, leave_of_depth hdepth htop, leave_of_depth rfl htop, ⟨?_, ?_⟩⟩
      · simp [hslot]
      · intro k hk hlive
        change k < top at hlive
        exact hslots k hk (by omega)
    · -- a stack pointer past the end is a defect on both
      exact .inl ⟨.defect (.noSlot top stackSlots), by simp [Machine.leave, hdepth, htop],
        by simp [Machine.leave, htop]⟩

/-- No instruction can tell the machines apart. -/
theorem SameLive.execute (h : SameLive m m') (byte : UInt8) (op : Opcode) :
    Alike SameLive (m.execute byte op) (m'.execute byte op) := by
  cases op with
  | call nnn => exact h.enter nnn
  | ret => exact h.leave
  | _ =>
    -- the stack is not in the footprint
    apply isAbout_sameLive.alike h (f := fun m => m.execute byte _)
    intro m other
    exact execute_graft byte (by simp [Opcode.footprint])

/-- Nothing else that is done to machines reaches the stack. -/
theorem bisimulation_sameLive : Bisimulation SameLive := by
  refine isAbout_sameLive.bisimulation (by decide) (fun m => ⟨rfl, fun _ _ _ => rfl⟩) ?_
    SameLive.execute ?_
  · intro m m' h
    rw [h.rest]
  · intro m m' h number
    exact isAbout_sameLive.alike h (f := fun m => m.keyDown number) fun _ _ =>
      keyDown_graft (by decide) (by decide) (by decide) number

end Machine

end Chip8
