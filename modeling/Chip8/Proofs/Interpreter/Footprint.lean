import Chip8.Proofs.Interpreter.Addresses
import Chip8.Proofs.Machine.Cells

/-! # The memory that a step touches

    A running machine looks at the word at its program counter, and then at no more of memory than
    the instruction there names; and it changes no more than that either. So what a step comes to
    can be told from a few cells: machines that differ in other cells only answer the same, tell the
    same and end up the same, and what differed still does. -/

namespace Chip8

namespace Machine

/-! ## Section 1: Machines with different memories -/

/-- Machines that are equal but for memory, and hold the same in these cells of it. -/
structure AlikeOn (cells : Nat → Prop) (m m' : Machine) : Prop where
  parts : m' = m.withRam m'.ram
  agree : ∀ cell, cells cell → m'.ram.cell cell = m.ram.cell cell

/-- The cells that a step with this instruction looks at: those of its word, and those that the
    instruction reads from the index on. -/
def LooksAt (m : Machine) (op : Opcode) (cell : Nat) : Prop :=
  cell = m.pc.toNat ∨ cell = m.pc.toNat + 1 ∨ m.Indexed op.reads cell

theorem fetch_withRam {m : Machine} {ram : Ram}
    (hhigh : ram.cell m.pc.toNat = m.ram.cell m.pc.toNat)
    (hlow : ram.cell (m.pc.toNat + 1) = m.ram.cell (m.pc.toNat + 1)) :
    (m.withRam ram).fetch = m.fetch := by
  have hword : (m.withRam ram).wordAtPc = m.wordAtPc := by
    show Ram.wordOf (ram.cell m.pc.toNat) (ram.cell (m.pc.toNat + 1)) = m.wordAtPc
    rw [hhigh, hlow]
    rfl
  rw [fetch_eq, fetch_eq, hword]
  rfl

end Machine

namespace Interpreter

variable {σ : Type} [ByteSource σ] {i : Interpreter σ} {word : UInt16} {op : Opcode}

/-! ## Section 2: The two ways that an instruction can go -/

theorem step_of_ok {m : Machine} (hrunning : i.machine.mode = .running)
    (hfetch : i.machine.fetch = .ok (word, op))
    (h : i.advance.machine.execute (ByteSource.next i.source).1 op = .ok m) :
    step i = ⟨⟨m, sourceAfter i.source op⟩, .ok (),
      .note (.fetched i.machine.pc word op) :: notesOf op ++ [.stepped]⟩ := by
  unfold step
  simp only [hrunning, hfetch, execute_of_ok (i := i.advance) h]
  rfl

theorem step_of_error {fault : Fault} (hrunning : i.machine.mode = .running)
    (hfetch : i.machine.fetch = .ok (word, op))
    (h : i.advance.machine.execute (ByteSource.next i.source).1 op = .error fault) :
    step i = ⟨i.advance, .error fault, [.note (.fetched i.machine.pc word op)]⟩ := by
  unfold step
  simp only [hrunning, hfetch, execute_of_error (i := i.advance) h]

omit [ByteSource σ] in
/-- The other interpreter is this one with another memory, in which there is the same word. -/
theorem exists_withRam {j : Interpreter σ} (hsource : j.source = i.source)
    (halike : i.machine.AlikeOn (i.machine.LooksAt op) j.machine) :
    ∃ ram, j = ⟨i.machine.withRam ram, i.source⟩ ∧
      (i.machine.withRam ram).fetch = i.machine.fetch ∧
      ∀ cell, i.machine.LooksAt op cell → ram.cell cell = i.machine.ram.cell cell := by
  obtain ⟨machine, source⟩ := j
  have hhigh := halike.agree i.machine.pc.toNat (.inl rfl)
  have hlow := halike.agree (i.machine.pc.toNat + 1) (.inr (.inl rfl))
  refine ⟨machine.ram, ?_, Machine.fetch_withRam hhigh hlow, halike.agree⟩
  rw [← halike.parts, ← hsource]

/-- Under another memory with the same in the cells that the step looks at, the same instruction is
    executed and goes the same way. -/
theorem execute_of_looksAt {ram : Ram}
    (h : ∀ cell, i.machine.LooksAt op cell → ram.cell cell = i.machine.ram.cell cell) :
    (i.advance.machine.withRam ram).execute (ByteSource.next i.source).1 op =
      (i.advance.machine.execute (ByteSource.next i.source).1 op).map
        (·.withRam (ram.written i.machine.index.toNat (i.advance.machine.outgoing op))) := by
  apply Machine.execute_withRam
  intro k hk
  apply h
  refine .inr (.inr ⟨Nat.le_add_right _ k, ?_⟩)
  exact Nat.add_lt_add_left hk i.machine.index.toNat

/-! ## Section 3: The main result -/

/-- A step of a running machine with an instruction at its program counter. Of memory it changes no
    more than the cells that the instruction replaces. Any interpreter with the same source whose
    machine differs from this one in nothing but memory cells, none of them one that the step looks
    at, answers and tells the same; the two machines are again equal but for memory, with the same
    in the replaced cells unless the instruction was refused, and each keeps what it had in all
    others. -/
theorem memory_footprint_of_step (i : Interpreter σ) (hrunning : i.machine.mode = .running)
    (hfetch : i.machine.fetch = .ok (word, op)) :
    let m := i.machine
    let replaced := m.Indexed op.writes
    op.WellFormed ∧
    (∀ cell, ¬ replaced cell → (step i).state.machine.ram.cell cell = m.ram.cell cell) ∧
    (step i).state.machine.ram.programAddr = m.ram.programAddr ∧
    ∀ j : Interpreter σ, j.source = i.source → m.AlikeOn (m.LooksAt op) j.machine →
      (step j).result = (step i).result ∧
      (step j).acts = (step i).acts ∧
      (step j).state.source = (step i).state.source ∧
      (step i).state.machine.AlikeOn (fun cell => (step i).result = .ok () ∧ replaced cell)
        (step j).state.machine ∧
      (∀ cell, ¬ replaced cell →
        (step j).state.machine.ram.cell cell = j.machine.ram.cell cell) ∧
      (step j).state.machine.ram.programAddr = j.machine.ram.programAddr := by
  intro m replaced
  have hattempted : attempted? i .step = some op := by simp [attempted?, hrunning, hfetch]
  have hwell : op.WellFormed := (fetched_of_attempted hattempted).2
  cases hexecute : i.advance.machine.execute (ByteSource.next i.source).1 op with
  | error fault =>
    -- neither memory changes, only the program counter has moved
    rw [step_of_error hrunning hfetch hexecute]
    refine ⟨hwell, fun _ _ => rfl, rfl, ?_⟩
    intro j hsource halike
    obtain ⟨ram, rfl, hsame, hcells⟩ := exists_withRam hsource halike
    have hexecute' := execute_of_looksAt hcells
    rw [hexecute] at hexecute'
    rw [step_of_error (i := ⟨m.withRam ram, i.source⟩) hrunning (hsame.trans hfetch) hexecute']
    refine ⟨rfl, rfl, rfl, ⟨rfl, ?_⟩, fun _ _ => rfl, rfl⟩
    rintro cell ⟨hok, -⟩
    cases hok
  | ok after =>
    -- the program counter has moved by now, but neither the index nor memory
    have hram := Machine.ram_of_execute hexecute
    have hprogram := Machine.execute_programAddr hexecute
    rw [step_of_ok hrunning hfetch hexecute]
    refine ⟨hwell, ?_, hprogram, ?_⟩
    · intro cell hcell
      exact (congrArg (·.cell cell) hram).trans
        (Machine.cell_outgoing_outside (m := i.advance.machine) m.ram hcell)
    intro j hsource halike
    obtain ⟨ram, rfl, hsame, hcells⟩ := exists_withRam hsource halike
    have hexecute' := execute_of_looksAt hcells
    rw [hexecute] at hexecute'
    rw [step_of_ok (i := ⟨m.withRam ram, i.source⟩) hrunning (hsame.trans hfetch) hexecute']
    refine ⟨rfl, rfl, rfl, ⟨rfl, ?_⟩, ?_, rfl⟩
    · rintro cell ⟨-, hcell⟩
      exact Machine.cell_outgoing_inside (m := i.advance.machine) ram hexecute hcell
    · intro cell hcell
      exact Machine.cell_outgoing_outside (m := i.advance.machine) ram hcell

/-- The decimals of 123 over the low byte of the instruction that asks for them. Another machine
    that holds something else in the second of the three cells and in a cell far away ends up with
    the same digits, and keeps what it had in the cell far away. -/
theorem decimals_over_own_word :
    let m : Machine :=
      { Machine.fresh.setRegister 2 123 with
        index := 0x201, ram := Ram.fresh.written 0x200 [0xf2, 0x33] }
    let i : Interpreter Stride := ⟨m, ⟨1, 0⟩⟩
    let j : Interpreter Stride :=
      ⟨m.withRam ((m.ram.written 0x202 [9]).written 0x300 [7]), ⟨1, 0⟩⟩
    m.mode = .running ∧ m.fetch = .ok (0xf233, .storeBcd 2) ∧
    m.AlikeOn (m.LooksAt (.storeBcd 2)) j.machine ∧
    (step i).result = .ok () ∧ (step j).result = .ok () ∧
    (step j).state.machine.ram.cell 0x202 = 2 ∧
    (step j).state.machine.ram.cell 0x300 = 7 := by
  intro m i j
  have hword : m.wordAtPc = 0xf233 := by decide +kernel
  have hfetch : m.fetch = .ok (0xf233, .storeBcd 2) := by
    rw [Machine.fetch_eq, hword]
    rfl
  have halike : m.AlikeOn (m.LooksAt (.storeBcd 2)) j.machine := by
    refine ⟨rfl, ?_⟩
    rintro cell (rfl | rfl | ⟨hge, hlt⟩)
    · decide +kernel
    · decide +kernel
    · exact absurd hlt (Nat.not_lt_of_le hge)
  obtain ⟨-, -, -, hothers⟩ := memory_footprint_of_step i rfl hfetch
  obtain ⟨hresult, -, -, hmachine, hkept, -⟩ := hothers j rfl halike
  have hok : (step i).result = .ok () := by
    have hfits : ¬ 4096 < i.advance.machine.index.toNat + 3 := by decide
    have hexecute := Machine.execute_storeBcd i.advance.machine (ByteSource.next i.source).1 2
    rw [if_neg hfits] at hexecute
    rw [step_of_ok (i := i) rfl hfetch hexecute]
  have hinside : m.Indexed 3 0x202 := ⟨by decide, by decide⟩
  have houtside : ¬ m.Indexed 3 0x300 := fun h => absurd h.2 (by decide)
  refine ⟨rfl, hfetch, halike, hok, hresult.trans hok, ?_, ?_⟩
  · have hdigit : (step i).state.machine.ram.cell 0x202 = 2 := by decide +kernel
    exact (hmachine.agree 0x202 ⟨hok, hinside⟩).trans hdigit
  · have hseven : j.machine.ram.cell 0x300 = 7 := by decide +kernel
    exact (hkept 0x300 houtside).trans hseven

end Interpreter

end Chip8
