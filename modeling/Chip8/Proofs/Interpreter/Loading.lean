import Chip8.Proofs.Interpreter.Safety

/-! # What a load leaves

    A load either puts its program into a fresh machine or changes nothing. `JustLoaded` says of a
    machine, part by part, that it holds a program and has not run yet. There is only one such
    machine for each program, and so nothing is left of what was before: whatever happened to two
    interpreters, after the same load they can be told apart by their sources of random bytes at
    most. -/

namespace Chip8

/-! ## Section 1: Memory -/

namespace Ram

/-- Data that fits replaces as many cells from its start on. -/
theorem toList_put (cells : Vector UInt8 4096) (start : Nat) (data : List UInt8)
    (h : start + data.length ≤ 4096) :
    (put cells start data).toList =
      cells.toList.take start ++ (data ++ cells.toList.drop (start + data.length)) := by
  apply List.ext_getElem
  · simp
    omega
  · intro k hk _
    rw [Vector.length_toList] at hk
    have hbefore : (cells.toList.take start).length = start := by
      rw [List.length_take, Vector.length_toList]
      omega
    rw [Vector.getElem_toList, getElem_put data cells start k hk]
    -- the place lies before the data, in it or behind it
    rcases Nat.lt_or_ge k start with hlt | hge
    · rw [if_neg (by omega), List.getElem_append_left (by omega)]
      simp
    · rw [if_pos hge, List.getElem_append_right (by omega)]
      simp only [hbefore]
      rcases Nat.lt_or_ge (k - start) data.length with hin | hpast
      · rw [List.getElem_append_left hin, List.getElem?_eq_getElem hin]
        rfl
      · rw [List.getElem_append_right hpast, List.getElem?_eq_none hpast]
        have hplace : start + data.length + (k - start - data.length) = k := by omega
        simp [hplace]

/-- What memory holds once a program is loaded: the font, zeros up to the program, the program, and
    zeros up to the last cell. -/
def image (bytes : List UInt8) : List UInt8 :=
  font ++ List.replicate (0x200 - 80) 0 ++ bytes ++ List.replicate (0xe00 - bytes.length) 0

theorem length_font : font.length = 80 := rfl

theorem toList_fresh : fresh.cells.toList = font ++ List.replicate (4096 - 80) 0 := by
  have hput := toList_put (Vector.replicate 4096 0) 0 font (by decide)
  rw [length_font, List.take_zero, List.nil_append, Nat.zero_add, Vector.toList_replicate,
    List.drop_replicate] at hput
  exact hput

theorem toList_written_fresh {bytes : List UInt8} (h : bytes.length ≤ 3584) :
    (fresh.written 0x200 bytes).cells.toList = image bytes := by
  have hput : (fresh.written 0x200 bytes).cells.toList = _ :=
    toList_put fresh.cells 0x200 bytes (by omega)
  have hfont : font.take 0x200 = font := List.take_of_length_le (by decide)
  have hpast : font.drop (0x200 + bytes.length) = [] := by
    apply List.drop_of_length_le
    rw [length_font]
    omega
  rw [hput, toList_fresh, image, List.take_append, List.drop_append, hfont, hpast, length_font]
  -- of the zeros behind the font those up to the program stay, and those behind it
  have hbefore : min (0x200 - 80) (4096 - 80) = 0x200 - 80 := rfl
  have hafter : 4096 - 80 - (0x200 + bytes.length - 80) = 0xe00 - bytes.length := by omega
  rw [List.take_replicate, List.drop_replicate, hbefore, hafter, List.nil_append,
    ← List.append_assoc]

end Ram

/-! ## Section 2: The machine after a load -/

namespace Machine

/-- The machine holds a program and has not run yet. -/
structure JustLoaded (bytes : List UInt8) (m : Machine) : Prop where
  cells : m.ram.cells.toList = Ram.image bytes
  programAddr : m.ram.programAddr = 0x200
  pc : m.pc = 0x200
  registers : ∀ r : Fin 16, m.registers.get r = 0
  index : m.index = 0
  /-- Dead slots of the stack are zero as well. -/
  stack : ∀ slot : Fin 16, m.stack.get slot = 0
  depth : m.depth = 0
  delay : m.delay = 0
  sound : m.sound = 0
  keys : ∀ k : Fin 16, m.keys.get k = false
  picture : ∀ c r, m.picture.lit c r = false
  mode : m.mode = .running

/-- A fresh machine with a program in it. -/
def loaded (bytes : List UInt8) : Machine :=
  { fresh with ram := Ram.fresh.written 0x200 bytes }

theorem justLoaded_loaded {bytes : List UInt8} (h : bytes.length ≤ 3584) :
    JustLoaded bytes (loaded bytes) where
  cells := Ram.toList_written_fresh h
  programAddr := rfl
  pc := rfl
  registers r := by simp [loaded, fresh, Vector.get]
  index := rfl
  stack slot := by simp [loaded, fresh, Vector.get]
  depth := rfl
  delay := rfl
  sound := rfl
  keys k := by simp [loaded, fresh, Vector.get]
  picture := Picture.lit_blank
  mode := rfl

/-- Vectors that hold nothing but one value are equal. -/
theorem vector_eq_of_const {α : Type} {v v' : Vector α 16} {a : α} (h : ∀ k, v.get k = a)
    (h' : ∀ k, v'.get k = a) : v = v' := by
  apply Vector.ext
  intro k hk
  exact (h ⟨k, hk⟩).trans (h' ⟨k, hk⟩).symm

/-- The program says everything about a machine that it was just loaded into. -/
theorem JustLoaded.unique {bytes : List UInt8} {m m' : Machine} (h : JustLoaded bytes m)
    (h' : JustLoaded bytes m') : m = m' := by
  have hcells : m.ram.cells = m'.ram.cells := Vector.toList_inj.mp (h.cells.trans h'.cells.symm)
  have hram : m.ram = m'.ram := by
    rw [Ram.mk.injEq]
    exact ⟨hcells, h.programAddr.trans h'.programAddr.symm⟩
  have hpicture : m.picture = m'.picture :=
    Picture.eq_of_lit fun c _ r _ => (h.picture c r).trans (h'.picture c r).symm
  rw [Machine.mk.injEq]
  exact ⟨vector_eq_of_const h.registers h'.registers, h.index.trans h'.index.symm,
    h.pc.trans h'.pc.symm, vector_eq_of_const h.stack h'.stack, h.depth.trans h'.depth.symm, hram,
    h.delay.trans h'.delay.symm, h.sound.trans h'.sound.symm, vector_eq_of_const h.keys h'.keys,
    hpicture, h.mode.trans h'.mode.symm⟩

end Machine

/-! ## Section 3: The main result -/

namespace Interpreter

variable {σ : Type}

theorem load_of_fits {bytes : List UInt8} (h : bytes.length ≤ 3584) (i : Interpreter σ) :
    load (.whole bytes) i =
      ⟨{ i with machine := .loaded bytes }, .ok bytes.length,
        [.note (.loaded bytes.length 0x200)]⟩ := by
  have hload := Ram.load_fresh_eq bytes
  rw [if_neg (by omega)] at hload
  unfold load
  rw [show Machine.fresh.ram = Ram.fresh from rfl, hload]
  rfl

theorem load_of_tooLarge {bytes : List UInt8} (h : 3584 < bytes.length) (i : Interpreter σ) :
    load (.whole bytes) i = ⟨i, .error (.programTooLarge bytes.length 3584), []⟩ := by
  have hload := Ram.load_fresh_eq bytes
  rw [if_pos h] at hload
  unfold load
  rw [show Machine.fresh.ram = Ram.fresh from rfl, hload]

/-- Whatever became of an interpreter before, a program of at most 3584 bytes is loaded whole: its
    size is the answer, and the machine is the one that holds it and has not run yet, of which there
    is no second. So two interpreters whose sources of random bytes are the same go on alike after
    the load, whatever is done with them. A longer program is refused with its size and the largest
    possible one, and a program that breaks off with the text of the refusal, wherever it breaks
    off; then the machine stays as it was. The source of random bytes stays in any case. -/
theorem load_forgets_the_past [ByteSource σ] (i : Interpreter σ) :
    (∀ bytes : List UInt8, bytes.length ≤ 3584 →
      (load (.whole bytes) i).result = .ok bytes.length ∧
      (load (.whole bytes) i).state.machine.JustLoaded bytes ∧
      (∀ m : Machine, m.JustLoaded bytes → m = (load (.whole bytes) i).state.machine) ∧
      ∀ other : Interpreter σ, other.source = i.source → ∀ later,
        answers later (load (.whole bytes) other).state =
          answers later (load (.whole bytes) i).state ∧
        run later (load (.whole bytes) other).state = run later (load (.whole bytes) i).state) ∧
    (∀ bytes : List UInt8, 3584 < bytes.length →
      (load (.whole bytes) i).result = .error (.programTooLarge bytes.length 3584) ∧
      (load (.whole bytes) i).state.machine = i.machine) ∧
    (∀ bytes text,
      (load (.broken bytes text) i).result = .error (.device text) ∧
      (load (.broken bytes text) i).state.machine = i.machine) ∧
    ∀ program, (load program i).state.source = i.source := by
  refine ⟨?_, ?_, fun _ _ => ⟨rfl, rfl⟩, ?_⟩
  · intro bytes hfits
    rw [load_of_fits hfits i]
    have hloaded := Machine.justLoaded_loaded hfits
    refine ⟨rfl, hloaded, fun m hm => hm.unique hloaded, ?_⟩
    intro other hsource later
    rw [load_of_fits hfits other, hsource]
    exact ⟨rfl, rfl⟩
  · intro bytes hlarge
    rw [load_of_tooLarge hlarge i]
    exact ⟨rfl, rfl⟩
  · intro program
    unfold load
    split
    · rfl
    · rfl

end Interpreter

end Chip8
