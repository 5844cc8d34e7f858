import Chip8.Proofs.Interpreter.Alike

/-! # Operands modulo 16

    The operands that name registers have room for numbers that no register has. Only their last
    nibble counts, wherever they are used: an instruction and the same one with masked operands do
    the same. One operand outlives its instruction, that of a wait, which names the register that
    the next key goes into. There the two leave machines that are parked with different operands,
    and these are never told apart, whatever is done to them. -/

namespace Chip8

/-- The instruction with the last nibble of every operand that names a register. -/
def Opcode.masked : Opcode → Opcode
  | .skipEqImm x kk => .skipEqImm (x % 16) kk
  | .skipNeImm x kk => .skipNeImm (x % 16) kk
  | .skipEqReg x y => .skipEqReg (x % 16) (y % 16)
  | .loadImm x kk => .loadImm (x % 16) kk
  | .addImm x kk => .addImm (x % 16) kk
  | .loadReg x y => .loadReg (x % 16) (y % 16)
  | .or x y => .or (x % 16) (y % 16)
  | .and x y => .and (x % 16) (y % 16)
  | .xor x y => .xor (x % 16) (y % 16)
  | .addReg x y => .addReg (x % 16) (y % 16)
  | .sub x y => .sub (x % 16) (y % 16)
  | .shiftRight x => .shiftRight (x % 16)
  | .subReverse x y => .subReverse (x % 16) (y % 16)
  | .shiftLeft x => .shiftLeft (x % 16)
  | .skipNeReg x y => .skipNeReg (x % 16) (y % 16)
  | .random x kk => .random (x % 16) kk
  | .draw x y n => .draw (x % 16) (y % 16) n
  | .skipKeyPressed x => .skipKeyPressed (x % 16)
  | .skipKeyNotPressed x => .skipKeyNotPressed (x % 16)
  | .loadDelay x => .loadDelay (x % 16)
  | .waitKey x => .waitKey (x % 16)
  | .setDelay x => .setDelay (x % 16)
  | .setSound x => .setSound (x % 16)
  | .addIndex x => .addIndex (x % 16)
  | .loadDigit x => .loadDigit (x % 16)
  | .storeBcd x => .storeBcd (x % 16)
  | .storeRegisters x => .storeRegisters (x % 16)
  | .loadRegisters x => .loadRegisters (x % 16)
  | .clearScreen => .clearScreen
  | .ret => .ret
  | .jump nnn => .jump nnn
  | .call nnn => .call nnn
  | .loadIndex nnn => .loadIndex nnn
  | .jumpOffset nnn => .jumpOffset nnn

/-- Both running, or both parked with operands that name one register. -/
inductive Mode.SameSlot : Mode → Mode → Prop
  | running : SameSlot .running .running
  | awaitingKey {r r' : UInt8} (h : r.toNat % 16 = r'.toNat % 16) :
    SameSlot (.awaitingKey r) (.awaitingKey r')

theorem Mode.SameSlot.refl : ∀ mode : Mode, mode.SameSlot mode
  | .running => .running
  | .awaitingKey _ => .awaitingKey rfl

theorem Mode.SameSlot.running_iff {mode mode' : Mode} (h : mode.SameSlot mode') :
    mode' = .running ↔ mode = .running := by
  cases h with
  | running => exact Iff.rfl
  | awaitingKey hnibble => simp

namespace Machine

/-! ## Section 1: Masked operands -/

/-- An operand and its last nibble name one register. -/
@[simp] theorem slot_mod (x : UInt8) : slot (x % 16) = slot x := by
  apply Fin.ext
  show (x % 16).toNat % 16 = x.toNat % 16
  rw [UInt8.toNat_mod]
  exact Nat.mod_mod _ 16

@[simp] theorem register_mod (m : Machine) (x : UInt8) : m.register (x % 16) = m.register x := by
  simp only [register, slot_mod]

@[simp] theorem setRegister_mod (m : Machine) (x value : UInt8) :
    m.setRegister (x % 16) value = m.setRegister x value := by
  simp only [setRegister, slot_mod]

@[simp] theorem setFlagged_mod (m : Machine) (x value : UInt8) (flag : Bool) :
    m.setFlagged (x % 16) value flag = m.setFlagged x value flag := by
  simp only [setFlagged, setRegister_mod]

/-- Registers are reached through slots only, save by a wait, which keeps its operand. -/
theorem execute_masked (m : Machine) (byte : UInt8) {op : Opcode} (h : ∀ x, op ≠ .waitKey x) :
    m.execute byte op.masked = m.execute byte op := by
  cases op with
  | waitKey x => exact absurd rfl (h x)
  | _ => simp only [Opcode.masked, execute, slot_mod, register_mod, setRegister_mod, setFlagged_mod]

/-! ## Section 2: Machines parked with different operands -/

/-- The machines are equal, or parked with two operands that name one register and equal
    otherwise. -/
structure SameButOperand (m m' : Machine) : Prop where
  rest : m' = { m with mode := m'.mode }
  mode : m.mode.SameSlot m'.mode

variable {m m' : Machine}

theorem isAbout_sameButOperand : IsAbout SameButOperand [.mode] where
  eq_graft h := h.rest
  grafted := by
    intro m m' after h hstays
    refine ⟨rfl, ?_⟩
    have hmode : after.mode = m.mode := (congrArg Machine.mode hstays).symm
    show after.mode.SameSlot m'.mode
    rw [hmode]
    exact h.mode

theorem SameButOperand.refl (m : Machine) : SameButOperand m m := ⟨rfl, .refl m.mode⟩

/-- An instruction that waits parks both machines with one operand, and no other looks at the
    mode. -/
theorem SameButOperand.execute (h : SameButOperand m m') (byte : UInt8) (op : Opcode) :
    Alike SameButOperand (m.execute byte op) (m'.execute byte op) := by
  cases op with
  | waitKey x =>
    refine .inr ⟨_, _, rfl, rfl, ?_⟩
    rw [h.rest]
    exact SameButOperand.refl _
  | _ =>
    apply isAbout_sameButOperand.alike h (f := fun m => m.execute byte _)
    intro m other
    exact execute_graft byte (by simp [Opcode.footprint])

/-- The key that ends a wait goes into one register on both machines. -/
theorem SameButOperand.pressed (h : SameButOperand m m') (number : UInt8) (k : Fin 16) :
    m'.pressed number k = m.pressed number k := by
  obtain ⟨hrest, hmode⟩ := h
  rw [hrest]
  unfold Machine.pressed
  generalize hm : m.mode = mode at hmode ⊢
  generalize m'.mode = mode' at hmode ⊢
  cases hmode with
  | running => simp [setKey, hm]
  | @awaitingKey r r' hnibble =>
    have hslot : slot r = slot r' := Fin.ext hnibble
    simp only [setRegister, setKey, hslot]

theorem SameButOperand.keyDown (h : SameButOperand m m') (number : UInt8) :
    Alike SameButOperand (m.keyDown number) (m'.keyDown number) := by
  rw [keyDown_eq, keyDown_eq]
  cases key number with
  | error fault => exact .inl ⟨fault, rfl, rfl⟩
  | ok k =>
    refine .inr ⟨_, _, rfl, rfl, ?_⟩
    rw [h.pressed]
    exact SameButOperand.refl _

theorem bisimulation_sameButOperand : Bisimulation SameButOperand :=
  isAbout_sameButOperand.bisimulation (by decide) SameButOperand.refl
    (fun h => h.mode.running_iff) SameButOperand.execute SameButOperand.keyDown

end Machine

namespace Interpreter

variable {σ : Type} [ByteSource σ]

/-- The same of the whole turn: no other instruction puts its operand into the journal either. -/
theorem execute_masked (i : Interpreter σ) {op : Opcode} (h : ∀ x, op ≠ .waitKey x) :
    execute op.masked i = execute op i := by
  have hsource : sourceAfter i.source op.masked = sourceAfter i.source op := by
    cases op <;> rfl
  have hnotes : notesOf op.masked = notesOf op := by
    cases op with
    | waitKey x => exact absurd rfl (h x)
    | _ => rfl
  unfold execute
  rw [Machine.execute_masked _ _ h, hsource, hnotes]

/-! ## Section 3: The main result -/

/-- Masked operands do. An instruction and the masked one answer the same on every interpreter, and
    leave the same one unless they wait for a key; then they leave it parked, the one with the
    operand itself and the other with its last nibble. Whoever has two interpreters that differ in
    such a way at most gets the same answers from both, whatever is done to them and for however
    long, and they go on differing in such a way at most. -/
theorem operands_count_modulo_sixteen :
    (∀ (i : Interpreter σ) (op : Opcode),
      let plain := execute op i
      let masked := execute op.masked i
      masked.result = plain.result ∧
      ((∀ x, op ≠ .waitKey x) → masked.state = plain.state) ∧
      ∀ x, op = .waitKey x →
        plain.state = { i with machine := { i.machine with mode := .awaitingKey x } } ∧
        masked.state = { i with machine := { i.machine with mode := .awaitingKey (x % 16) } } ∧
        Related Machine.SameButOperand plain.state masked.state) ∧
    ∀ i j : Interpreter σ, Related Machine.SameButOperand i j → ∀ history,
      answers history j = answers history i ∧
      Related Machine.SameButOperand (run history i) (run history j) := by
  refine ⟨?_, fun i j h => h.run Machine.bisimulation_sameButOperand⟩
  intro i op plain masked
  by_cases hwait : ∃ x, op = .waitKey x
  · obtain ⟨x, rfl⟩ := hwait
    have hnibble : x.toNat % 16 = (x % 16).toNat % 16 := congrArg Fin.val (Machine.slot_mod x).symm
    refine ⟨rfl, fun hother => absurd rfl (hother x), ?_⟩
    rintro _ ⟨⟩
    exact ⟨rfl, rfl, ⟨rfl, .awaitingKey hnibble⟩, rfl⟩
  · have hother : ∀ x, op ≠ .waitKey x := not_exists.mp hwait
    have hsame : masked = plain := execute_masked i hother
    rw [hsame]
    exact ⟨rfl, fun _ => rfl, fun x hx => absurd hx (hother x)⟩

end Interpreter

end Chip8
