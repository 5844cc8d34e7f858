import Chip8.Proofs.Machine.Refusal

/-! # The footprint of an instruction

    A machine falls into ten parts, and an instruction reads and changes only the few in its
    footprint. This is said once, for all instructions: `graft` replaces some parts of a machine by
    those of another, and an instruction whose footprint misses these parts does the same before the
    replacement as after it. Two consequences are used everywhere: such an instruction leaves the
    parts as they are, and it cannot tell machines apart that differ in nothing else. -/

namespace Chip8

/-- The parts of a machine. The stack is one part with its depth. -/
inductive Part where
  | registers | index | pc | stack | ram | delay | sound | keys | picture | mode
  deriving DecidableEq

/-- The parts that an instruction reads or changes. -/
def Opcode.footprint : Opcode → List Part
  | .clearScreen => [.picture]
  | .ret | .call _ => [.pc, .stack]
  | .jump _ => [.pc]
  | .skipEqImm .. | .skipNeImm .. | .skipEqReg .. | .skipNeReg .. | .jumpOffset _ =>
    [.registers, .pc]
  | .loadImm .. | .addImm .. | .loadReg .. | .or .. | .and .. | .xor .. | .addReg .. | .sub ..
  | .subReverse .. | .shiftRight _ | .shiftLeft _ | .random .. => [.registers]
  | .loadIndex _ => [.index]
  | .draw .. => [.registers, .index, .ram, .picture]
  | .skipKeyPressed _ | .skipKeyNotPressed _ => [.registers, .pc, .keys]
  | .loadDelay _ | .setDelay _ => [.registers, .delay]
  | .setSound _ => [.registers, .sound]
  | .waitKey _ => [.mode]
  | .addIndex _ | .loadDigit _ => [.registers, .index]
  | .storeBcd _ | .storeRegisters _ | .loadRegisters _ => [.registers, .index, .ram]

/-- A footprint without a part shares none with that part alone. -/
theorem Opcode.not_mem_singleton {op : Opcode} {part : Part} (h : part ∉ op.footprint) :
    ∀ other ∈ op.footprint, other ∉ [part] := by
  intro other hother hmem
  rw [List.mem_singleton] at hmem
  exact h (hmem ▸ hother)

namespace Machine

/-! ### Grafting -/

/-- The machine with some of its parts replaced by those of another. -/
def graft (m other : Machine) (parts : List Part) : Machine where
  registers := if .registers ∈ parts then other.registers else m.registers
  index := if .index ∈ parts then other.index else m.index
  pc := if .pc ∈ parts then other.pc else m.pc
  stack := if .stack ∈ parts then other.stack else m.stack
  depth := if .stack ∈ parts then other.depth else m.depth
  ram := if .ram ∈ parts then other.ram else m.ram
  delay := if .delay ∈ parts then other.delay else m.delay
  sound := if .sound ∈ parts then other.sound else m.sound
  keys := if .keys ∈ parts then other.keys else m.keys
  picture := if .picture ∈ parts then other.picture else m.picture
  mode := if .mode ∈ parts then other.mode else m.mode

@[simp] theorem graft_self (m : Machine) (parts : List Part) : m.graft m parts = m := by
  simp [graft]

variable {m other : Machine} {parts : List Part}

/-! ### The functions that `execute` is made of -/

theorem register_graft (h : .registers ∉ parts) (x : UInt8) :
    (m.graft other parts).register x = m.register x := by
  simp [graft, register, h]

theorem setRegister_graft (h : .registers ∉ parts) (x value : UInt8) :
    (m.graft other parts).setRegister x value = (m.setRegister x value).graft other parts := by
  simp [graft, setRegister, h]

theorem setFlag_graft (h : .registers ∉ parts) (flag : Bool) :
    (m.graft other parts).setFlag flag = (m.setFlag flag).graft other parts := by
  simp [graft, setFlag, h]

theorem setFlagged_graft (h : .registers ∉ parts) (x value : UInt8) (flag : Bool) :
    (m.graft other parts).setFlagged x value flag =
      (m.setFlagged x value flag).graft other parts := by
  simp only [setFlagged, setRegister_graft h, setFlag_graft h]

theorem skipIf_graft (h : .pc ∉ parts) (condition : Bool) :
    (m.graft other parts).skipIf condition = (m.skipIf condition).graft other parts := by
  cases condition with
  | false => rfl
  | true => simp [graft, skipIf, h]

theorem enter_graft (hpc : .pc ∉ parts) (hstack : .stack ∉ parts) (target : UInt16) :
    (m.graft other parts).enter target = (m.enter target).map (·.graft other parts) := by
  by_cases hdepth : m.depth < 16
  · simp [graft, enter, hpc, hstack, hdepth, Except.map]
  · simp [graft, enter, hstack, hdepth, Except.map]

theorem leave_graft (hpc : .pc ∉ parts) (hstack : .stack ∉ parts) :
    (m.graft other parts).leave = m.leave.map (·.graft other parts) := by
  cases hdepth : m.depth with
  | zero => simp [graft, leave, hstack, hdepth, Except.map]
  | succ top =>
    cases htop : m.stack[top]? with
    | none => simp [graft, leave, hstack, hdepth, htop, Except.map]
    | some target => simp [graft, leave, hpc, hstack, hdepth, htop, Except.map]

theorem drawSprite_graft (hregisters : .registers ∉ parts) (hindex : .index ∉ parts)
    (hram : .ram ∉ parts) (hpicture : .picture ∉ parts) (x y n : UInt8) :
    (m.graft other parts).drawSprite x y n =
      (m.drawSprite x y n).map (·.graft other parts) := by
  have hidx : (m.graft other parts).index = m.index := by simp [graft, hindex]
  have hdrawn : (m.graft other parts).drawn x y n = (m.drawn x y n).graft other parts := by
    simp [graft, drawn, sprite, setFlag, hregisters, hindex, hram, hpicture]
  -- both checks read parts that are not replaced
  rw [drawSprite_eq, drawSprite_eq, hidx, hdrawn]
  split
  · rfl
  · split <;> rfl

theorem stored_graft (hindex : .index ∉ parts) (hram : .ram ∉ parts) (data : List UInt8) :
    (m.graft other parts).stored data = (m.stored data).graft other parts := by
  simp [graft, stored, hindex, hram]

theorem restored_graft (hregisters : .registers ∉ parts) (hindex : .index ∉ parts)
    (hram : .ram ∉ parts) (count : Nat) :
    (m.graft other parts).restored count = (m.restored count).graft other parts := by
  simp [graft, restored, hregisters, hindex, hram]

theorem skipOnKey_graft (hregisters : .registers ∉ parts) (hpc : .pc ∉ parts)
    (hkeys : .keys ∉ parts) (x : UInt8) (wanted : Bool → Bool) :
    (do let k ← key ((m.graft other parts).register x)
        return (m.graft other parts).skipIf (wanted ((m.graft other parts).keys.get k))) =
      Except.map (fun after : Machine => after.graft other parts)
        (do let k ← key (m.register x)
            return m.skipIf (wanted (m.keys.get k))) := by
  have hlatches : (m.graft other parts).keys = m.keys := by simp [graft, hkeys]
  rw [register_graft hregisters, hlatches]
  cases key (m.register x) with
  | error fault => rfl
  | ok k => exact congrArg Except.ok (skipIf_graft hpc _)

/-! ### All instructions -/

/-- An instruction does the same before parts outside its footprint are replaced as after it. -/
theorem execute_graft (byte : UInt8) {op : Opcode} (h : ∀ part ∈ op.footprint, part ∉ parts) :
    (m.graft other parts).execute byte op =
      (m.execute byte op).map (·.graft other parts) := by
  cases op with
  | ret =>
    obtain ⟨hpc, hstack, -⟩ := by simpa only [Opcode.footprint, List.forall_mem_cons] using h
    exact leave_graft hpc hstack
  | call nnn =>
    obtain ⟨hpc, hstack, -⟩ := by simpa only [Opcode.footprint, List.forall_mem_cons] using h
    exact enter_graft hpc hstack nnn
  | skipKeyPressed x =>
    obtain ⟨hregisters, hpc, hkeys, -⟩ := by
      simpa only [Opcode.footprint, List.forall_mem_cons] using h
    exact skipOnKey_graft hregisters hpc hkeys x id
  | skipKeyNotPressed x =>
    obtain ⟨hregisters, hpc, hkeys, -⟩ := by
      simpa only [Opcode.footprint, List.forall_mem_cons] using h
    exact skipOnKey_graft hregisters hpc hkeys x not
  | draw x y n =>
    obtain ⟨hregisters, hindex, hram, hpicture, -⟩ := by
      simpa only [Opcode.footprint, List.forall_mem_cons] using h
    simp only [execute, register_graft hregisters]
    exact drawSprite_graft hregisters hindex hram hpicture _ _ n
  | storeBcd x =>
    obtain ⟨hregisters, hindex, hram, -⟩ := by
      simpa only [Opcode.footprint, List.forall_mem_cons] using h
    have hidx : (m.graft other parts).index = m.index := by simp [graft, hindex]
    rw [execute_storeBcd, execute_storeBcd, register_graft hregisters, stored_graft hindex hram,
      hidx]
    split <;> rfl
  | storeRegisters x =>
    obtain ⟨hregisters, hindex, hram, -⟩ := by
      simpa only [Opcode.footprint, List.forall_mem_cons] using h
    have hidx : (m.graft other parts).index = m.index := by simp [graft, hindex]
    have hregs : (m.graft other parts).registers = m.registers := by simp [graft, hregisters]
    rw [execute_storeRegisters, execute_storeRegisters, hregs, stored_graft hindex hram, hidx]
    split <;> rfl
  | loadRegisters x =>
    obtain ⟨hregisters, hindex, hram, -⟩ := by
      simpa only [Opcode.footprint, List.forall_mem_cons] using h
    have hidx : (m.graft other parts).index = m.index := by simp [graft, hindex]
    rw [execute_loadRegisters, execute_loadRegisters, restored_graft hregisters hindex hram, hidx]
    split <;> rfl
  | clearScreen | jump nnn | loadIndex nnn | jumpOffset nnn | loadDelay x | waitKey x | setDelay x
  | setSound x | addIndex x | loadDigit x =>
    simp only [Opcode.footprint, List.forall_mem_cons] at h
    simp [execute, graft, setRegister, register, h, Except.map]
  | _ =>
    -- what is left never fails, and is written in terms of registers and skips
    simp only [Opcode.footprint, List.forall_mem_cons] at h
    simp only [execute, h, not_false_eq_true, register_graft, setRegister_graft, setFlagged_graft,
      skipIf_graft, Except.map]

/-! ### What comes from outside -/

theorem fetch_graft (hpc : .pc ∉ parts) (hram : .ram ∉ parts) :
    (m.graft other parts).fetch = m.fetch := by
  simp [graft, fetch, hpc, hram]

theorem tick_graft (hdelay : .delay ∉ parts) (hsound : .sound ∉ parts) :
    (m.graft other parts).tick = m.tick.graft other parts := by
  simp [graft, tick, hdelay, hsound]

theorem pressed_graft (hregisters : .registers ∉ parts) (hkeys : .keys ∉ parts)
    (hmode : .mode ∉ parts) (number : UInt8) (k : Fin 16) :
    (m.graft other parts).pressed number k = (m.pressed number k).graft other parts := by
  cases hrunning : m.mode with
  | running => simp [graft, pressed, setKey, hkeys, hmode, hrunning]
  | awaitingKey r => simp [graft, pressed, setKey, setRegister, hregisters, hkeys, hmode, hrunning]

theorem keyDown_graft (hregisters : .registers ∉ parts) (hkeys : .keys ∉ parts)
    (hmode : .mode ∉ parts) (number : UInt8) :
    (m.graft other parts).keyDown number = (m.keyDown number).map (·.graft other parts) := by
  rw [keyDown_eq, keyDown_eq]
  cases key number with
  | error fault => rfl
  | ok k => exact congrArg Except.ok (pressed_graft hregisters hkeys hmode number k)

theorem keyUp_graft (hkeys : .keys ∉ parts) (number : UInt8) :
    (m.graft other parts).keyUp number = (m.keyUp number).map (·.graft other parts) := by
  unfold keyUp
  cases key number with
  | error fault => rfl
  | ok k => simp [graft, setKey, hkeys, bind, Except.bind, pure, Except.pure, Except.map]

/-! ### Parts outside the footprint stay -/

/-- What commutes with every graft of these parts leaves them as they are. -/
theorem graft_of_commutes {f : Machine → Except Fault Machine} {after : Machine}
    (hcommutes : f (m.graft m parts) = (f m).map (·.graft m parts)) (h : f m = .ok after) :
    after.graft m parts = after := by
  -- grafting a machine onto itself changes nothing, so the graft comes out on the result alone
  rw [graft_self, h] at hcommutes
  exact (Except.ok.inj hcommutes).symm

/-- An instruction leaves all parts outside its footprint as they are. -/
theorem graft_of_execute_of_disjoint (parts : List Part) {byte : UInt8} {op : Opcode}
    {after : Machine} (h : m.execute byte op = .ok after)
    (hparts : ∀ part ∈ op.footprint, part ∉ parts) : after.graft m parts = after :=
  graft_of_commutes (f := fun m => m.execute byte op) (execute_graft byte hparts) h

theorem graft_of_execute (part : Part) {byte : UInt8} {op : Opcode} {after : Machine}
    (h : m.execute byte op = .ok after) (hpart : part ∉ op.footprint) :
    after.graft m [part] = after :=
  graft_of_execute_of_disjoint [part] h (Opcode.not_mem_singleton hpart)

theorem graft_of_keyDown (parts : List Part) {number : UInt8} {after : Machine}
    (h : m.keyDown number = .ok after)
    (hregisters : .registers ∉ parts) (hkeys : .keys ∉ parts) (hmode : .mode ∉ parts) :
    after.graft m parts = after :=
  graft_of_commutes (f := fun m => m.keyDown number)
    (keyDown_graft hregisters hkeys hmode number) h

theorem graft_of_keyUp (parts : List Part) {number : UInt8} {after : Machine}
    (h : m.keyUp number = .ok after) (hkeys : .keys ∉ parts) : after.graft m parts = after :=
  graft_of_commutes (f := fun m => m.keyUp number) (keyUp_graft hkeys number) h

/-! ### Changes of some parts -/

/-- The function changes no parts but these, and goes by nothing but what they are. -/
structure ActsOn (f : Machine → Machine) (parts : List Part) : Prop where
  graft : ∀ m, m.graft (f m) parts = f m
  same : ∀ m after, after.graft m parts = after → after.graft (f m) parts = f after

/-- Such a change can be made before or after anything that does not look at the parts. -/
theorem ActsOn.commutes {f : Machine → Machine} (hf : ActsOn f parts)
    {g : Machine → Except Fault Machine}
    (hg : ∀ m other, g (m.graft other parts) = (g m).map (·.graft other parts)) (m : Machine) :
    g (f m) = (g m).map f := by
  rw [← hf.graft m, hg]
  cases h : g m with
  | error fault => rfl
  | ok after => exact congrArg Except.ok (hf.same m after (graft_of_commutes (hg m m) h))

theorem keyDown_mode {number : UInt8} {after : Machine} (h : m.keyDown number = .ok after) :
    after.mode = .running := by
  rw [keyDown_eq] at h
  cases hkey : key number with
  | error fault => rw [hkey] at h; cases h
  | ok k =>
    rw [hkey] at h
    cases h
    exact pressed_mode m number k

end Machine

end Chip8
