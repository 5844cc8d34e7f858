import Chip8.Proofs.Interpreter.Parity

/-! # One drawing, pixel by pixel

    A drawing that is not refused flips the pixels that its sprite covers and leaves all others; the
    flag register tells whether a pixel went dark that was lit. Where the sprite goes is read from
    the registers before the flag is written, so the flag register may name a coordinate itself.
    Nothing else of the machine changes, and no random byte is taken.

    Drawn a second time at the same place, the sprite is gone again. The two flags say what was on
    the screen before: the first whether a covered pixel was lit, the second whether one was dark.
    So the second drawing need not set the flag. -/

namespace Chip8

/-- What is flipped twice is as it was. -/
theorem Picture.xor_xor_self (p q : Picture) : (p.xor q).xor q = p := by
  apply eq_of_lit
  intro c hc r hr
  rw [lit_xor, lit_xor, Bool.xor_assoc, Bool.xor_self, Bool.xor_false]

/-- A flag is 1 or 0, as a statement about it holds or not. -/
theorem Machine.flagByte_iff {flag : Bool} {P : Prop} (h : flag = true ↔ P) :
    (flagByte flag = 1 ↔ P) ∧ (flagByte flag = 0 ↔ ¬ P) := by
  have hone : flagByte flag = 1 ↔ flag = true := by cases flag <;> decide
  have hzero : flagByte flag = 0 ↔ ¬ flag = true := by cases flag <;> decide
  rw [hone, hzero, h]
  exact ⟨Iff.rfl, Iff.rfl⟩

namespace Machine

variable (m : Machine) (x y n : UInt8)

/-- The machine after a drawing at the place that two registers name. -/
def drawnAt : Machine := m.drawn (m.register x) (m.register y) n

/-- A pixel is flipped where the stamp covers it. -/
theorem lit_drawnAt {c r : Nat} (hc : c < 64) (hr : r < 32) :
    (m.drawnAt x y n).picture.lit c r =
      (m.picture.lit c r ^^ (m.stampOf x y n).covers c r) := by
  show (m.picture.xor (m.stampOf x y n).picture).lit c r = _
  rw [Picture.lit_xor]
  congr 1
  exact Picture.lit_ofSprite _ _ _ hc hr

/-- The flag is set exactly if a pixel went dark. -/
theorem flag_drawnAt :
    (m.drawnAt x y n).registers.get flagSlot =
      flagByte (m.picture.loses (m.drawnAt x y n).picture) :=
  flag_setFlag _ _

/-- No other register changes. -/
theorem registers_drawnAt {k : Fin 16} (hk : k ≠ flagSlot) :
    (m.drawnAt x y n).registers.get k = m.registers.get k :=
  Vector.getElem_set_ne flagSlot.isLt k.isLt fun h => hk (Fin.ext h.symm)

/-- A sprite without rows covers nothing, so no pixel goes dark. -/
theorem drawnAt_zero : (m.drawnAt x y 0).picture = m.picture := by
  have hnil : m.sprite 0 = [] := List.eq_nil_of_length_eq_zero (length_sprite m 0)
  show m.picture.xor (Picture.ofSprite (m.sprite 0) _ _) = m.picture
  rw [hnil, Picture.ofSprite_nil, Picture.xor_blank]

/-! ### The same sprite once more -/

/-- A register other than the flag register is the same after a drawing. -/
theorem register_drawnAt {operand : UInt8} (h : operand.toNat % 16 ≠ 15) :
    (m.drawnAt x y n).register operand = m.register operand := by
  have hslot : slot operand ≠ flagSlot := by
    intro heq
    exact h (congrArg Fin.val heq)
  exact m.registers_drawnAt x y n hslot

/-- So the same instruction makes the same stamp once more. -/
theorem stampOf_drawnAt (hx : x.toNat % 16 ≠ 15) (hy : y.toNat % 16 ≠ 15) :
    (m.drawnAt x y n).stampOf x y n = m.stampOf x y n := by
  show Stamp.mk (m.sprite n) ((m.drawnAt x y n).register x) ((m.drawnAt x y n).register y) = _
  rw [m.register_drawnAt x y n hx, m.register_drawnAt x y n hy]
  rfl

/-- The second stamp takes the first one away, and all that is left of the two is a flag. -/
theorem drawnAt_drawnAt (hx : x.toNat % 16 ≠ 15) (hy : y.toNat % 16 ≠ 15) :
    (m.drawnAt x y n).drawnAt x y n =
      m.setFlag ((m.drawnAt x y n).picture.loses m.picture) := by
  have hpicture : (m.drawnAt x y n).picture.xor ((m.drawnAt x y n).stampOf x y n).picture =
      m.picture := by
    rw [m.stampOf_drawnAt x y n hx hy]
    exact Picture.xor_xor_self m.picture (m.stampOf x y n).picture
  show ({ m.drawnAt x y n with
      picture := (m.drawnAt x y n).picture.xor ((m.drawnAt x y n).stampOf x y n).picture }).setFlag
    ((m.drawnAt x y n).picture.loses
      ((m.drawnAt x y n).picture.xor ((m.drawnAt x y n).stampOf x y n).picture)) = _
  rw [hpicture]
  exact setFlag_setFlag m _ _

/-- The first flag: some pixel that the stamp covers was lit. -/
theorem loses_drawnAt_iff :
    m.picture.loses (m.drawnAt x y n).picture = true ↔
      ∃ c < 64, ∃ r < 32, (m.stampOf x y n).covers c r = true ∧ m.picture.lit c r = true := by
  rw [Picture.loses_iff]
  constructor
  · rintro ⟨c, hc, r, hr, hlit, hdark⟩
    rw [m.lit_drawnAt x y n hc hr, hlit, Bool.true_xor, Bool.not_eq_false'] at hdark
    exact ⟨c, hc, r, hr, hdark, hlit⟩
  · rintro ⟨c, hc, r, hr, hcovers, hlit⟩
    refine ⟨c, hc, r, hr, hlit, ?_⟩
    rw [m.lit_drawnAt x y n hc hr, hlit, hcovers]
    rfl

/-- The second flag: some pixel that the stamp covers was dark before both. -/
theorem drawnAt_loses_iff :
    (m.drawnAt x y n).picture.loses m.picture = true ↔
      ∃ c < 64, ∃ r < 32, (m.stampOf x y n).covers c r = true ∧ m.picture.lit c r = false := by
  rw [Picture.loses_iff]
  constructor
  · rintro ⟨c, hc, r, hr, hlit, hdark⟩
    rw [m.lit_drawnAt x y n hc hr, hdark, Bool.false_xor] at hlit
    exact ⟨c, hc, r, hr, hlit, hdark⟩
  · rintro ⟨c, hc, r, hr, hcovers, hdark⟩
    refine ⟨c, hc, r, hr, ?_, hdark⟩
    rw [m.lit_drawnAt x y n hc hr, hdark, hcovers]
    rfl

end Machine

namespace Interpreter

variable {σ : Type} [ByteSource σ]

/-- A drawing succeeds only where its rows are in memory, and leaves the drawn machine and the old
    source. -/
theorem execute_draw_of_ok {i : Interpreter σ} {x y n : UInt8}
    (h : (execute (.draw x y n) i).result = .ok ()) :
    i.machine.index.toNat + n.toNat ≤ 4096 ∧
      (execute (.draw x y n) i).state = ⟨i.machine.drawnAt x y n, i.source⟩ := by
  obtain ⟨after, hmachine, hstate⟩ := machine_of_execute_ok h
  obtain ⟨hmemory, -, rfl⟩ := (Machine.execute_draw_ok_iff _ _ _ x y n).mp hmachine
  exact ⟨hmemory, hstate⟩

/-- A drawing that succeeds, with its sprite in memory from the index on and its place in two
    registers, any two of them. A pixel is flipped exactly if it is in one of the `n` rows and eight
    columns of the sprite and its bit is set there, the highest bit on the left; columns past the
    right edge are dropped. The flag is 1 if a pixel was lit and is dark now, and otherwise 0, as it
    is for a sprite without rows. Nothing else changes. -/
theorem drawing_pixel_by_pixel (i : Interpreter σ) (x y n : UInt8)
    (h : (execute (.draw x y n) i).result = .ok ()) :
    let m := i.machine
    let after := (execute (.draw x y n) i).state.machine
    let x₀ := (m.register x).toNat
    let y₀ := (m.register y).toNat
    let flipped := (m.stampOf x y n).covers
    let darkens := ∃ c < 64, ∃ r < 32, m.picture.lit c r = true ∧ after.picture.lit c r = false
    m.index.toNat + n.toNat ≤ 4096 ∧
    (∀ c < 64, ∀ r < 32, after.picture.lit c r = (m.picture.lit c r ^^ flipped c r)) ∧
    (∀ c r, flipped c r = true ↔
      (y₀ ≤ r ∧ r < y₀ + n.toNat) ∧ (x₀ ≤ c ∧ c < x₀ + 8) ∧
      (m.ram.cell (m.index.toNat + (r - y₀))).toNat.testBit (7 - (c - x₀)) = true) ∧
    (darkens → after.registers.get 15 = 1) ∧
    (¬ darkens → after.registers.get 15 = 0) ∧
    (n = 0 → after.registers.get 15 = 0) ∧
    (∀ k : Fin 16, k ≠ 15 → after.registers.get k = m.registers.get k) ∧
    after = { m with registers := after.registers, picture := after.picture } ∧
    (execute (.draw x y n) i).state.source = i.source := by
  intro m after x₀ y₀ flipped darkens
  obtain ⟨hmemory, hstate⟩ := execute_draw_of_ok h
  have hafter : after = m.drawnAt x y n := congrArg Interpreter.machine hstate
  have hflag : after.registers.get 15 = Machine.flagByte (m.picture.loses after.picture) := by
    rw [hafter]
    exact m.flag_drawnAt x y n
  have hloses : m.picture.loses after.picture = true ↔ darkens := Picture.loses_iff _ _
  refine ⟨hmemory, ?_, m.covers_stampOf x y n, ?_, ?_, ?_, ?_, ?_, ?_⟩
  · intro c hc r hr
    rw [hafter]
    exact m.lit_drawnAt x y n hc hr
  · intro hdark
    rw [hflag, hloses.mpr hdark]
    rfl
  · intro hnone
    rw [← hloses, Bool.not_eq_true] at hnone
    rw [hflag, hnone]
    rfl
  · -- the picture stays as it is, and it loses nothing to itself
    rintro rfl
    have hsame : after.picture = m.picture := by
      rw [hafter]
      exact m.drawnAt_zero x y
    rw [hflag, hsame, Picture.loses_self]
    rfl
  · intro k hk
    rw [hafter]
    exact m.registers_drawnAt x y n hk
  · rw [hafter]
    rfl
  · rw [hstate]

/-- The digit 0 with its left edge in column 62, which is named by the flag register. Two columns
    of it are seen, one pixel of which was lit, and the other two do not come back on the left. -/
theorem digit_over_the_right_edge :
    let m : Machine :=
      { ((Machine.fresh.setRegister 15 62).setRegister 1 27) with picture := .ofRows [(27, 1)] }
    let i : Interpreter Stride := ⟨m, ⟨1, 0⟩⟩
    let after := (execute (.draw 0x1f 1 5) i).state.machine
    (execute (.draw 0x1f 1 5) i).result = .ok () ∧
    after.picture.lit 63 27 = false ∧ after.picture.lit 62 27 = true ∧
    after.picture.lit 0 27 = false ∧ after.registers.get 15 = 1 ∧ after.registers.get 1 = 27 := by
  intro m i after
  have hok : (execute (.draw 0x1f 1 5) i).result = .ok () := rfl
  obtain ⟨-, hpixel, -, hflag, -, -, hregisters, -, -⟩ := drawing_pixel_by_pixel i 0x1f 1 5 hok
  have hdark : after.picture.lit 63 27 = false := by
    rw [hpixel 63 (by decide) 27 (by decide)]
    decide +kernel
  refine ⟨hok, hdark, ?_, ?_, ?_, ?_⟩
  · rw [hpixel 62 (by decide) 27 (by decide)]
    decide +kernel
  · rw [hpixel 0 (by decide) 27 (by decide)]
    decide +kernel
  · exact hflag ⟨63, by decide, 27, by decide, by decide +kernel, hdark⟩
  · rw [hregisters 1 (by decide)]
    rfl

/-- A drawing that succeeded succeeds again, if its place is not named by the flag register. -/
theorem execute_draw_again {i : Interpreter σ} {x y n : UInt8} (hx : x.toNat % 16 ≠ 15)
    (hy : y.toNat % 16 ≠ 15) (h : (execute (.draw x y n) i).result = .ok ()) :
    let once := (execute (.draw x y n) i).state
    (execute (.draw x y n) once).result = .ok () ∧
      (execute (.draw x y n) once).state =
        ⟨i.machine.setFlag ((i.machine.drawnAt x y n).picture.loses i.machine.picture),
          i.source⟩ := by
  intro once
  let m := i.machine
  have honce : once = ⟨m.drawnAt x y n, i.source⟩ := (execute_draw_of_ok h).2
  -- both checks of the second drawing read what the first one has left alone
  have hagain : (m.drawnAt x y n).execute (ByteSource.next i.source).1 (.draw x y n) =
      .ok ((m.drawnAt x y n).drawnAt x y n) := by
    obtain ⟨after, hfirst, -⟩ := machine_of_execute_ok h
    obtain ⟨hmemory, hrows, -⟩ := (Machine.execute_draw_ok_iff m after _ x y n).mp hfirst
    refine (Machine.execute_draw_ok_iff _ _ _ x y n).mpr ⟨hmemory, ?_, rfl⟩
    rw [m.register_drawnAt x y n hy]
    exact hrows
  rw [honce, execute_of_ok (i := ⟨m.drawnAt x y n, i.source⟩) hagain,
    m.drawnAt_drawnAt x y n hx hy]
  exact ⟨rfl, rfl⟩

/-- A sprite that is drawn twice at one place, the place not being named by the flag register. The
    second drawing succeeds if the first does, and then everything is as it was before both but the
    flag register. After the first drawing the flag is 1 exactly if some pixel on the screen that
    the sprite covers was lit before, after the second exactly if some such pixel was dark before,
    and otherwise it is 0. So it is 0 after the second drawing only if the sprite covers nothing on
    the screen, or nothing that was dark. -/
theorem drawing_twice_erases (i : Interpreter σ) (x y n : UInt8) (hx : x.toNat % 16 ≠ 15)
    (hy : y.toNat % 16 ≠ 15) (h : (execute (.draw x y n) i).result = .ok ()) :
    let m := i.machine
    let once := (execute (.draw x y n) i).state
    let twice := (execute (.draw x y n) once).state
    let x₀ := (m.register x).toNat
    let y₀ := (m.register y).toNat
    let covered := (m.stampOf x y n).covers
    let coversLit := ∃ c < 64, ∃ r < 32, covered c r = true ∧ m.picture.lit c r = true
    let coversDark := ∃ c < 64, ∃ r < 32, covered c r = true ∧ m.picture.lit c r = false
    (execute (.draw x y n) once).result = .ok () ∧
    (∀ k : Fin 16, k ≠ 15 → twice.machine.registers.get k = m.registers.get k) ∧
    twice = { i with machine := { m with registers := twice.machine.registers } } ∧
    (∀ c r, covered c r = true ↔
      (y₀ ≤ r ∧ r < y₀ + n.toNat) ∧ (x₀ ≤ c ∧ c < x₀ + 8) ∧
      (m.ram.cell (m.index.toNat + (r - y₀))).toNat.testBit (7 - (c - x₀)) = true) ∧
    (once.machine.registers.get 15 = 1 ↔ coversLit) ∧
    (once.machine.registers.get 15 = 0 ↔ ¬ coversLit) ∧
    (twice.machine.registers.get 15 = 1 ↔ coversDark) ∧
    (twice.machine.registers.get 15 = 0 ↔ ¬ coversDark) := by
  intro m once twice x₀ y₀ covered coversLit coversDark
  obtain ⟨hresult, htwice⟩ := execute_draw_again hx hy h
  have hmachine : twice.machine = m.setFlag ((m.drawnAt x y n).picture.loses m.picture) :=
    congrArg Interpreter.machine htwice
  -- both flags are told by what a picture loses to another
  have hfirst : once.machine.registers.get 15 =
      Machine.flagByte (m.picture.loses (m.drawnAt x y n).picture) := by
    show (execute (.draw x y n) i).state.machine.registers.get 15 = _
    rw [(execute_draw_of_ok h).2]
    exact m.flag_drawnAt x y n
  have hsecond : twice.machine.registers.get 15 =
      Machine.flagByte ((m.drawnAt x y n).picture.loses m.picture) := by
    rw [hmachine]
    exact m.flag_setFlag _
  obtain ⟨hlit, hunlit⟩ := Machine.flagByte_iff (m.loses_drawnAt_iff x y n)
  obtain ⟨hdark, hundark⟩ := Machine.flagByte_iff (m.drawnAt_loses_iff x y n)
  rw [← hfirst] at hlit hunlit
  rw [← hsecond] at hdark hundark
  refine ⟨hresult, ?_, ?_, m.covers_stampOf x y n, hlit, hunlit, hdark, hundark⟩
  · intro k hk
    rw [hmachine]
    exact Vector.getElem_set_ne Machine.flagSlot.isLt k.isLt fun heq => hk (Fin.ext heq.symm)
  · show (execute (.draw x y n) once).state = _
    rw [htwice, hmachine]
    rfl

/-- The digit 0 over a screen on which its two visible columns are lit already: the first drawing
    sets the flag, and the second, which lights all pixels again, does not. -/
theorem digit_over_lit_pixels :
    let m : Machine :=
      { ((Machine.fresh.setRegister 1 62).setRegister 2 27) with
        picture := .ofRows [(27, 3), (28, 2), (29, 2), (30, 2), (31, 3)] }
    let i : Interpreter Stride := ⟨m, ⟨1, 0⟩⟩
    let once := (execute (.draw 1 0x12 5) i).state
    let twice := (execute (.draw 1 0x12 5) once).state
    (execute (.draw 1 0x12 5) i).result = .ok () ∧ (execute (.draw 1 0x12 5) once).result = .ok () ∧
    once.machine.registers.get 15 = 1 ∧ twice.machine.registers.get 15 = 0 ∧
    twice.machine.picture = m.picture := by
  intro m i once twice
  have hok : (execute (.draw 1 0x12 5) i).result = .ok () := rfl
  obtain ⟨hresult, -, htwice, -, hfirst, -, -, hsecond⟩ :=
    drawing_twice_erases i 1 0x12 5 (by decide) (by decide) hok
  have hall : ∀ c < 64, ∀ r < 32,
      (m.stampOf 1 0x12 5).covers c r = true → m.picture.lit c r = true := by decide +kernel
  -- spelled out as in the facts above, so that no drawing has to be carried out to compare them
  have honce : once = (execute (.draw 1 0x12 5) i).state := rfl
  have hagain : twice = (execute (.draw 1 0x12 5) (execute (.draw 1 0x12 5) i).state).state := rfl
  rw [hagain, honce]
  refine ⟨hok, hresult, hfirst.mpr ?_, hsecond.mpr ?_, ?_⟩
  · exact ⟨62, by decide, 27, by decide, by decide +kernel, by decide +kernel⟩
  · rintro ⟨c, hc, r, hr, hcovers, hdark⟩
    have hlit : m.picture.lit c r = true := hall c hc r hr hcovers
    exact Bool.false_ne_true (hdark.symm.trans hlit)
  · rw [htwice]

end Interpreter

end Chip8
