import Chip8.Proofs.Interpreter.Drawing
import Chip8.Proofs.Interpreter.Saving

/-! # Decimal output

    A program that shows a number lets its decimal digits be written to memory, reads them into the
    first three registers, and then draws for each of these the sprite that the font has for it.
    The digits are those of the number, whichever register held it; the sprites are those of the
    font as long as nothing was written over it, and digits are written behind it here. Drawing
    touches neither memory nor any register but that of the flag, so the digits can be drawn in any
    order and any number of times. -/

namespace Chip8

/-- Does the instruction choose or draw a sprite? -/
def Opcode.shows : Opcode → Bool
  | .loadDigit _ | .draw .. => true
  | _ => false

/-! ## Section 1: Digits -/

namespace Digits

variable (n : UInt8)

/-- The digits of a byte make up the byte. -/
theorem sum_ofByte :
    100 * (ofByte n).hundreds.toNat + 10 * (ofByte n).tens.toNat + (ofByte n).ones.toNat =
      n.toNat := by
  have hn : n.toNat < 256 := n.toNat_lt
  have hhundreds : (ofByte n).hundreds.toNat = n.toNat / 100 := UInt8.toNat_div n 100
  have htens : (ofByte n).tens.toNat = n.toNat / 10 % 10 := by
    show (n / 10 % 10).toNat = _
    rw [UInt8.toNat_mod, UInt8.toNat_div]
    rfl
  have hones : (ofByte n).ones.toNat = n.toNat % 10 := UInt8.toNat_mod n 10
  omega

theorem le_nine_of_mem {d : UInt8} (h : d ∈ (ofByte n).toList) : d.toNat ≤ 9 := by
  have hn : n.toNat < 256 := n.toNat_lt
  simp only [toList, ofByte, List.mem_cons, List.not_mem_nil, or_false] at h
  rcases h with rfl | rfl | rfl
  · rw [UInt8.toNat_div]
    show n.toNat / 100 ≤ 9
    omega
  · rw [UInt8.toNat_mod]
    show _ % 10 ≤ 9
    omega
  · rw [UInt8.toNat_mod]
    show _ % 10 ≤ 9
    omega

end Digits

namespace Ram

/-- The font is where fresh memory has it. -/
def HoldsFont (ram : Ram) : Prop := ∀ k < 80, ram.cell k = font.getD k 0

/-- The sprites of the font are five rows apart. -/
theorem toNat_digitAddr (d : UInt8) : (digitAddr d).toNat = 5 * d.toNat := by
  have hd : d.toNat < 256 := d.toNat_lt
  have hproduct : (digitAddr d).toNat = 5 * d.toNat % 2 ^ 16 := by
    unfold digitAddr
    rw [UInt16.toNat_mul, UInt8.toNat_toUInt16]
    rfl
  rw [hproduct, Nat.mod_eq_of_lt (by omega)]

end Ram

namespace Machine

/-! ## Section 2: The digits in registers -/

/-- The machine with the digits of a register in memory, from the index on, and in the first three
    registers. -/
def decimals (m : Machine) (x : UInt8) : Machine :=
  (m.stored (Digits.ofByte (m.register x)).toList).restored 3

variable {m after : Machine} {x : UInt8}

theorem get_decimals_digit (h : m.index.toNat + 3 ≤ 4096) {k : Fin 16} (hk : k.val < 3) :
    (m.decimals x).registers.get k = (Digits.ofByte (m.register x)).toList.get ⟨k.val, hk⟩ := by
  unfold decimals
  rw [get_restored, if_pos hk]
  exact Ram.cell_written_inside m.ram hk (by omega)

theorem get_decimals_other {k : Fin 16} (hk : 2 < k.val) :
    (m.decimals x).registers.get k = m.registers.get k := by
  unfold decimals
  rw [get_restored, if_neg (by omega)]
  rfl

theorem register_decimals {operand : UInt8} (h : 2 < operand.toNat % 16) :
    (m.decimals x).register operand = m.register operand := by
  show (m.decimals x).registers.get (slot operand) = m.registers.get (slot operand)
  exact get_decimals_other h

theorem cell_decimals {cell : Nat} (h : ¬ m.Indexed 3 cell) :
    (m.decimals x).ram.cell cell = m.ram.cell cell := by
  have houtside : ¬ m.Indexed (Opcode.storeBcd x).writes cell := h
  unfold decimals
  rw [ram_restored]
  show (m.ram.written m.index.toNat (m.outgoing (.storeBcd x))).cell cell = _
  rw [cell_outgoing_outside m.ram houtside]

/-- Digits that are written behind the font leave it alone. -/
theorem holdsFont_decimals (hfont : m.ram.HoldsFont) (h : 80 ≤ m.index.toNat) :
    (m.decimals x).ram.HoldsFont := by
  intro k hk
  have houtside : ¬ m.Indexed 3 k := fun hin => by
    have := hin.1
    omega
  rw [cell_decimals houtside, hfont k hk]

/-! ## Section 3: Drawing keeps the digits -/

/-- Memory and all registers but that of the flag are as before. -/
structure KeepsDigits (m after : Machine) : Prop where
  ram : after.ram = m.ram
  registers : ∀ k : Fin 16, k ≠ flagSlot → after.registers.get k = m.registers.get k

theorem KeepsDigits.refl (m : Machine) : m.KeepsDigits m := ⟨rfl, fun _ _ => rfl⟩

theorem KeepsDigits.trans {between : Machine} (h : m.KeepsDigits between)
    (h' : between.KeepsDigits after) : m.KeepsDigits after :=
  ⟨h'.ram.trans h.ram, fun k hk => (h'.registers k hk).trans (h.registers k hk)⟩

theorem KeepsDigits.execute {byte : UInt8} {op : Opcode} (h : m.execute byte op = .ok after)
    (hop : op.shows = true) : m.KeepsDigits after := by
  cases op with
  | loadDigit x =>
    cases h
    exact ⟨rfl, fun _ _ => rfl⟩
  | draw x y n =>
    obtain ⟨-, -, rfl⟩ := (execute_draw_ok_iff m after byte x y n).mp h
    exact ⟨rfl, fun k hk => m.registers_drawnAt x y n hk⟩
  | _ => cases hop

theorem KeepsDigits.register (h : m.KeepsDigits after) (hx : x.toNat % 16 ≠ 15) :
    after.register x = m.register x := by
  apply h.registers
  intro heq
  exact hx (congrArg Fin.val heq)

/-! ## Section 4: One sprite of the font -/

/-- A drawing from the sprite of a digit flips the pixels of the font's rows for this digit. -/
theorem covers_glyph (hfont : m.ram.HoldsFont) {d : UInt8} (hd : d.toNat ≤ 15)
    (hindex : m.index = Ram.digitAddr d) (x y : UInt8) (c r : Nat) :
    (m.stampOf x y 5).covers c r = true ↔
      ((m.register y).toNat ≤ r ∧ r < (m.register y).toNat + 5) ∧
      ((m.register x).toNat ≤ c ∧ c < (m.register x).toNat + 8) ∧
      (Ram.font.getD (5 * d.toNat + (r - (m.register y).toNat)) 0).toNat.testBit
        (7 - (c - (m.register x).toNat)) = true := by
  rw [covers_stampOf, hindex, Ram.toNat_digitAddr]
  apply and_congr_right
  rintro ⟨htop, hbottom⟩
  -- the five rows are within the font
  have hfive : (5 : UInt8).toNat = 5 := rfl
  rw [hfont _ (by omega)]

end Machine

namespace Interpreter

variable {σ : Type} [ByteSource σ] {i : Interpreter σ}

/-- The sprite of a digit is chosen: this only moves the index. -/
theorem execute_loadDigit (x : UInt8) :
    execute (.loadDigit x) i =
      ⟨⟨{ i.machine with index := Ram.digitAddr (i.machine.register x) }, i.source⟩, .ok (), []⟩ :=
  execute_of_ok rfl

/-- A drawing of five rows from the font's sprites is refused only where it would stick out at the
    bottom. -/
theorem draw_glyph_ok_iff {d : UInt8} (hd : d.toNat ≤ 15)
    (hindex : i.machine.index = Ram.digitAddr d) (x y : UInt8) :
    (execute (.draw x y 5) i).result = .ok () ↔ (i.machine.register y).toNat + 5 ≤ 32 := by
  have hfive : (5 : UInt8).toNat = 5 := rfl
  have hmemory : i.machine.index.toNat + (5 : UInt8).toNat ≤ 4096 := by
    rw [hindex, Ram.toNat_digitAddr]
    omega
  constructor
  · intro hok
    obtain ⟨after, hexecute, -⟩ := machine_of_execute_ok hok
    exact ((Machine.execute_draw_ok_iff _ _ _ x y 5).mp hexecute).2.1 (by decide)
  · intro hrows
    rw [execute_of_ok ((Machine.execute_draw_ok_iff _ _ _ x y 5).mpr
      ⟨hmemory, fun _ => hrows, rfl⟩)]

/-- Where it is not refused, it flips the pixels that the font has for the digit. -/
theorem draw_glyph_flips (hfont : i.machine.ram.HoldsFont) {d : UInt8} (hd : d.toNat ≤ 15)
    (hindex : i.machine.index = Ram.digitAddr d) {x y : UInt8}
    (hok : (execute (.draw x y 5) i).result = .ok ()) {c r : Nat} (hc : c < 64) (hr : r < 32) :
    (execute (.draw x y 5) i).state.machine.picture.lit c r ≠ i.machine.picture.lit c r ↔
      ((i.machine.register y).toNat ≤ r ∧ r < (i.machine.register y).toNat + 5) ∧
      ((i.machine.register x).toNat ≤ c ∧ c < (i.machine.register x).toNat + 8) ∧
      (Ram.font.getD (5 * d.toNat + (r - (i.machine.register y).toNat)) 0).toNat.testBit
        (7 - (c - (i.machine.register x).toNat)) = true := by
  rw [(execute_draw_of_ok hok).2, i.machine.lit_drawnAt x y 5 hc hr,
    ← Machine.covers_glyph hfont hd hindex]
  cases i.machine.picture.lit c r <;> simp

/-- Both in a row, for the digit that a register holds. -/
theorem glyph_drawn (hfont : i.machine.ram.HoldsFont) {operand d : UInt8}
    (hoperand : i.machine.register operand = d) (hd : d.toNat ≤ 15) (x y : UInt8) :
    let pointed := execute (.loadDigit operand) i
    let drawn := execute (.draw x y 5) pointed.state
    pointed.result = .ok () ∧
    pointed.state.machine.index.toNat = 5 * d.toNat ∧
    (drawn.result = .ok () ↔ (i.machine.register y).toNat + 5 ≤ 32) ∧
    (drawn.result = .ok () → ∀ c < 64, ∀ r < 32,
      (drawn.state.machine.picture.lit c r ≠ i.machine.picture.lit c r ↔
        ((i.machine.register y).toNat ≤ r ∧ r < (i.machine.register y).toNat + 5) ∧
        ((i.machine.register x).toNat ≤ c ∧ c < (i.machine.register x).toNat + 8) ∧
        (Ram.font.getD (5 * d.toNat + (r - (i.machine.register y).toNat)) 0).toNat.testBit
          (7 - (c - (i.machine.register x).toNat)) = true)) := by
  subst hoperand
  let next : Interpreter σ :=
    ⟨{ i.machine with index := Ram.digitAddr (i.machine.register operand) }, i.source⟩
  show (execute (.loadDigit operand) i).result = _ ∧ _
  rw [execute_loadDigit]
  refine ⟨rfl, Ram.toNat_digitAddr _, draw_glyph_ok_iff (i := next) hd rfl x y, ?_⟩
  intro hok c hc r hr
  exact draw_glyph_flips (i := next) hfont hd rfl hok hc hr

/-- Choosing and drawing sprites keeps the digits, also where a drawing is refused. -/
theorem keepsDigits_run {ops : List Opcode} (hops : ∀ op ∈ ops, op.shows = true) :
    i.machine.KeepsDigits (run (ops.map .execute) i).machine := by
  induction ops generalizing i with
  | nil => exact .refl _
  | cons op later ih =>
    rw [List.forall_mem_cons] at hops
    refine Machine.KeepsDigits.trans ?_ (ih hops.2)
    rw [perform_execute]
    cases hexecute : i.machine.execute (ByteSource.next i.source).1 op with
    | error fault =>
      rw [execute_of_error hexecute]
      exact .refl _
    | ok after =>
      rw [execute_of_ok hexecute]
      exact .execute hexecute hops.1

/-- The digits are written and read where there is room for them. -/
theorem decimals_of_fits (x : UInt8) (h : i.machine.index.toNat + 3 ≤ 4096) :
    (execute (.storeBcd x) i).result = .ok () ∧
      (execute (.loadRegisters 2) (execute (.storeBcd x) i).state).result = .ok () ∧
      (execute (.loadRegisters 2) (execute (.storeBcd x) i).state).state =
        ⟨i.machine.decimals x, i.source⟩ := by
  have hexecute : i.machine.execute (ByteSource.next i.source).1 (.storeBcd x) =
      .ok (i.machine.stored (Digits.ofByte (i.machine.register x)).toList) :=
    Machine.execute_storeBcd_ok_iff.mpr ⟨h, rfl⟩
  rw [execute_of_ok hexecute]
  refine ⟨rfl, ?_⟩
  -- the index has not moved, so there is room for what is read as well
  exact restored_of_fits (x := 2) h

/-! ## Section 5: The main result -/

/-- Decimal output, wherever there is room behind the font and whichever register the number is in.
    Its digits get into the first three registers; no other register has changed, and no cell but
    the three that the digits were put into. Then each digit can be drawn, whatever was drawn
    before: the index goes to its sprite, and a drawing at a place that two further registers name,
    neither of them the flag register, is refused only below the screen and otherwise flips exactly
    the pixels of the font's sprite for this digit, cut off at the right edge. -/
theorem decimals_are_drawn (i : Interpreter σ) (x : UInt8) (hfont : i.machine.ram.HoldsFont)
    (hlow : 80 ≤ i.machine.index.toNat) (hhigh : i.machine.index.toNat ≤ 4093) :
    let m := i.machine
    let stored := execute (.storeBcd x) i
    let loaded := execute (.loadRegisters 2) stored.state
    let v := loaded.state.machine.registers
    stored.result = .ok () ∧ loaded.result = .ok () ∧
    (∀ k : Fin 16, k.val ≤ 2 → (v.get k).toNat ≤ 9) ∧
    100 * (v.get 0).toNat + 10 * (v.get 1).toNat + (v.get 2).toNat = (m.register x).toNat ∧
    (∀ k : Fin 16, 2 < k.val → v.get k = m.registers.get k) ∧
    (∀ cell, ¬ m.Indexed 3 cell → loaded.state.machine.ram.cell cell = m.ram.cell cell) ∧
    ∀ earlier : List Opcode, (∀ op ∈ earlier, op.shows = true) →
    ∀ j col row : UInt8, j.toNat % 16 ≤ 2 →
      (∀ operand ∈ [col, row], 2 < operand.toNat % 16 ∧ operand.toNat % 16 ≠ 15) →
      let before := run (earlier.map .execute) loaded.state
      let pointed := execute (.loadDigit j) before
      let drawn := execute (.draw col row 5) pointed.state
      let digit := (v.get (Machine.slot j)).toNat
      let x₀ := (m.register col).toNat
      let y₀ := (m.register row).toNat
      pointed.result = .ok () ∧
      pointed.state.machine.index.toNat = 5 * digit ∧
      (drawn.result = .ok () ↔ y₀ + 5 ≤ 32) ∧
      (drawn.result = .ok () → ∀ c < 64, ∀ r < 32,
        (drawn.state.machine.picture.lit c r ≠ before.machine.picture.lit c r ↔
          (y₀ ≤ r ∧ r < y₀ + 5) ∧ (x₀ ≤ c ∧ c < x₀ + 8) ∧
          (Ram.font.getD (5 * digit + (r - y₀)) 0).toNat.testBit (7 - (c - x₀)) = true)) := by
  intro m stored loaded v
  have hroom : i.machine.index.toNat + 3 ≤ 4096 := by omega
  obtain ⟨hstored, hloaded, hstate⟩ := decimals_of_fits x hroom
  have hmachine : loaded.state.machine = m.decimals x := congrArg Interpreter.machine hstate
  have hv : v = (m.decimals x).registers := congrArg Machine.registers hmachine
  -- a digit as it was written, and so at most 9
  have hdigit : ∀ k : Fin 16, (hk : k.val < 3) →
      (v.get k).toNat = ((Digits.ofByte (m.register x)).toList.get ⟨k.val, hk⟩).toNat := by
    intro k hk
    rw [hv, Machine.get_decimals_digit hroom hk]
  have hnine : ∀ k : Fin 16, k.val ≤ 2 → (v.get k).toNat ≤ 9 := by
    intro k hk
    rw [hdigit k (Nat.lt_succ_of_le hk)]
    exact Digits.le_nine_of_mem _ (List.get_mem _ _)
  refine ⟨hstored, hloaded, hnine, ?_, ?_, ?_, ?_⟩
  · rw [hdigit 0 (by decide), hdigit 1 (by decide), hdigit 2 (by decide)]
    exact Digits.sum_ofByte _
  · intro k hk
    rw [hv]
    exact Machine.get_decimals_other hk
  · intro cell hcell
    rw [hmachine]
    exact Machine.cell_decimals hcell
  · intro earlier hearlier j col row hj hplace before pointed drawn digit x₀ y₀
    have hkeeps : (m.decimals x).KeepsDigits before.machine := by
      rw [← hmachine]
      exact keepsDigits_run hearlier
    have hfont' : before.machine.ram.HoldsFont := by
      intro cell hcell
      rw [hkeeps.ram]
      exact Machine.holdsFont_decimals hfont hlow cell hcell
    -- the digit and its place are in the registers that they were in before all drawings
    have hshown : before.machine.register j = (m.decimals x).register j :=
      hkeeps.register (by omega)
    have hvalue : digit = ((m.decimals x).register j).toNat := by
      show (v.get (Machine.slot j)).toNat = _
      rw [hv]
      rfl
    have hregister : ∀ operand ∈ [col, row],
        before.machine.register operand = m.register operand := by
      intro operand hoperand
      obtain ⟨hhigher, hflag⟩ := hplace operand hoperand
      rw [hkeeps.register hflag, Machine.register_decimals hhigher]
    have hsmall : ((m.decimals x).register j).toNat ≤ 15 := by
      rw [← hvalue]
      exact Nat.le_trans (hnine (Machine.slot j) hj) (by decide)
    have hglyph := glyph_drawn hfont' hshown hsmall col row
    rw [hregister col (by simp), hregister row (by simp), ← hvalue] at hglyph
    exact hglyph

/-- The digits of 207, which is in a register that they go into and whose cells are the last ones
    of memory. The last digit is drawn over the first at the right edge: three columns of it are
    seen there, so a pixel in its upper row changes and the one below, which is in the fourth column
    of the sprite, does not. -/
theorem digits_of_207 :
    let i : Interpreter Stride :=
      ⟨{ (((Machine.fresh.setRegister 1 207).setRegister 3 61).setRegister 4 27) with
          index := 4093 }, ⟨1, 0⟩⟩
    let loaded := (execute (.loadRegisters 2) (execute (.storeBcd 1) i).state).state
    let before := run ([Opcode.loadDigit 0, .draw 3 4 5].map .execute) loaded
    let pointed := (execute (.loadDigit 2) before).state
    let drawn := execute (.draw 3 4 5) pointed
    i.machine.ram.HoldsFont ∧ 80 ≤ i.machine.index.toNat ∧ i.machine.index.toNat ≤ 4093 ∧
    (loaded.machine.registers.get 0).toNat = 2 ∧ (loaded.machine.registers.get 1).toNat = 0 ∧
    (loaded.machine.registers.get 2).toNat = 7 ∧ pointed.machine.index.toNat = 35 ∧
    drawn.result = .ok () ∧
    drawn.state.machine.picture.lit 63 27 ≠ before.machine.picture.lit 63 27 ∧
    drawn.state.machine.picture.lit 63 28 = before.machine.picture.lit 63 28 := by
  intro i loaded before pointed drawn
  have hfont : i.machine.ram.HoldsFont := by
    unfold Ram.HoldsFont
    decide +kernel
  have hlow : 80 ≤ i.machine.index.toNat := by decide
  have hhigh : i.machine.index.toNat ≤ 4093 := by decide
  obtain ⟨-, -, hnine, hsum, -, -, hdraws⟩ := decimals_are_drawn i 1 hfont hlow hhigh
  have hplace : ∀ operand ∈ [(3 : UInt8), 4],
      2 < operand.toNat % 16 ∧ operand.toNat % 16 ≠ 15 := by
    rw [List.forall_mem_cons, List.forall_mem_singleton]
    exact ⟨⟨by decide, by decide⟩, ⟨by decide, by decide⟩⟩
  obtain ⟨-, hindex, hfits, hflips⟩ :=
    hdraws [.loadDigit 0, .draw 3 4 5] (by decide) 2 3 4 (by decide) hplace
  -- spelled out as in the facts above, so that nothing has to be carried out to compare them
  have hloaded : loaded = (execute (.loadRegisters 2) (execute (.storeBcd 1) i).state).state := rfl
  have hbefore : before = run ([Opcode.loadDigit 0, .draw 3 4 5].map .execute) loaded := rfl
  have hpointed : pointed = (execute (.loadDigit 2) before).state := rfl
  have hdrawn : drawn = execute (.draw 3 4 5) pointed := rfl
  have hvalue : (i.machine.register 1).toNat = 207 := by decide
  have hcol : (i.machine.register 3).toNat = 61 := by decide
  have hrow : (i.machine.register 4).toNat = 27 := by decide
  -- three digits that make up the number are its digits
  have hdigits : (loaded.machine.registers.get 0).toNat = 2 ∧
      (loaded.machine.registers.get 1).toNat = 0 ∧
      (loaded.machine.registers.get 2).toNat = 7 := by
    have hhundreds := hnine 0 (by decide)
    have htens := hnine 1 (by decide)
    have hones := hnine 2 (by decide)
    rw [hloaded]
    omega
  have hlast := hdigits.2.2
  have hslot : Machine.slot 2 = 2 := rfl
  rw [hloaded] at hlast
  rw [hslot, hlast] at hindex
  rw [hslot, hlast, hcol, hrow] at hflips
  rw [hrow] at hfits
  have hok := hfits.mpr (by decide)
  have hcolumn := hflips hok 63 (by decide)
  rw [hdrawn, hpointed, hbefore, hloaded]
  rw [hloaded] at hdigits
  refine ⟨hfont, hlow, hhigh, hdigits.1, hdigits.2.1, hdigits.2.2, hindex, hok, ?_, ?_⟩
  · exact (hcolumn 27 (by decide)).mpr (by decide +kernel)
  · exact Decidable.of_not_not fun h =>
      absurd ((hcolumn 28 (by decide)).mp h) (by decide +kernel)

end Interpreter

end Chip8
