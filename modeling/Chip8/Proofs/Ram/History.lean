import Chip8.Proofs.Ram.Access
import Chip8.Proofs.Opcode.Word

/-! # Memory is an array of cells

    Memory is written, filled, read and loaded in any order, in spans of any length that overlap in
    any way. All of it can be foretold from an array of 4096 cells: an access goes through exactly
    if its last cell is one of the array, a cell holds what was put into it last, and what is
    refused has done nothing.

    What a history has put into a cell last is found without running it (`newest?`). One access
    changes memory as its `placement?` says, and from this the contents after a history follow by
    induction (`cell_after`). -/

namespace Chip8.Ram

/-! ## Section 1: Accesses and what they put in -/

/-- Something that can be done to memory. -/
inductive Access where
  | write (addr : UInt16) (data : List UInt8)
  /-- `len` cells are set to `byte`. -/
  | fill (addr : UInt16) (len : UInt64) (byte : UInt8)
  | read (addr : UInt16) (len : UInt64)
  | readWord (addr : UInt16)
  | load (program : Delivery)
  deriving DecidableEq

/-- The number of bytes that an access is about. -/
def Access.length : Access → Nat
  | .write _ data => data.length
  | .fill _ len _ | .read _ len => len.toNat
  | .readWord _ => 2
  | .load (.whole bytes) | .load (.broken bytes _) => bytes.length

/-- Memory after an access, unless it is refused. -/
def access (ram : Ram) (a : Access) (overflow : Overflow := .trapped) : Except Fault Ram :=
  match a with
  | .write addr data => ram.write addr data overflow
  | .fill addr len byte => ram.fill addr len byte overflow
  | .read addr len => (ram.slice addr len overflow).map fun _ => ram
  | .readWord addr => (ram.word addr).map fun _ => ram
  | .load program => (ram.load program overflow).map (·.2)

/-- Memory after an access that may have been refused. -/
def follow (ram : Ram) (a : Access) (overflow : Overflow := .trapped) : Ram :=
  match ram.access a overflow with
  | .ok next => next
  | .error _ => ram

/-- Memory after a history. -/
def after (history : List Access) (ram : Ram) : Ram :=
  history.foldl (fun ram a => ram.follow a) ram

/-- Bytes that go into memory, and the cell that the first of them goes to. -/
structure Placement where
  start : Nat
  data : List UInt8

/-- The byte that goes to a cell, if one does. -/
def Placement.byte? (p : Placement) (cell : Nat) : Option UInt8 :=
  if p.start ≤ cell then p.data[cell - p.start]? else none

/-- What an access puts into an array of 4096 cells, if it puts in something and that fits. Programs
    go to `programStart`. -/
def Access.placement? (programStart : Nat) : Access → Option Placement
  | .write addr data => if addr.toNat + data.length ≤ 4096 then some ⟨addr.toNat, data⟩ else none
  | .fill addr len byte =>
    if addr.toNat + len.toNat ≤ 4096 then some ⟨addr.toNat, List.replicate len.toNat byte⟩ else none
  | .load (.whole bytes) =>
    if programStart + bytes.length ≤ 4096 then some ⟨programStart, bytes⟩ else none
  | .read .. | .readWord _ | .load (.broken ..) => none

/-- The byte that an access puts into a cell, if it puts in one. -/
def Access.byte? (programStart : Nat) (a : Access) (cell : Nat) : Option UInt8 :=
  (a.placement? programStart).bind (·.byte? cell)

/-- The byte that was put into a cell last. -/
def newest? (programStart : Nat) (history : List Access) (cell : Nat) : Option UInt8 :=
  (history.filterMap (·.byte? programStart cell)).getLast?

/-- These bytes are in memory from cell `start` on, and nothing else has changed. -/
structure Replaced (before next : Ram) (start : Nat) (data : List UInt8) : Prop where
  inside : ∀ (k : Nat) (h : k < data.length), next.cell (start + k) = data[k]
  outside : ∀ cell, cell < start ∨ start + data.length ≤ cell → next.cell cell = before.cell cell
  programAddr : next.programAddr = before.programAddr

/-! ## Section 2: One access -/

theorem replaced_written (ram : Ram) {start : Nat} {data : List UInt8}
    (h : start + data.length ≤ 4096) : Replaced ram (ram.written start data) start data where
  inside k hk := cell_written_inside ram hk (by omega)
  outside cell hcell := cell_written_outside ram hcell
  programAddr := rfl

/-- A cell after a write is what the write puts there, or what it was. -/
theorem cell_placed (ram : Ram) (p : Placement) {cell : Nat} (h : cell < 4096) :
    (ram.written p.start p.data).cell cell = (p.byte? cell).getD (ram.cell cell) := by
  rw [cell_written ram p.start p.data h]
  unfold Placement.byte?
  split
  · rfl
  · rfl

/-- An access changes memory by what it puts there, and what puts nothing there changes nothing. -/
theorem follow_eq {ram : Ram} (hprogram : ram.programAddr.toNat ≤ 4096) {a : Access}
    (h : a.length ≤ 2 ^ 63) :
    ram.follow a =
      match a.placement? ram.programAddr.toNat with
      | some p => ram.written p.start p.data
      | none => ram := by
  unfold follow
  cases a with
  | write addr data =>
    have haddr : addr.toNat < 65536 := addr.toNat_lt
    have hlength : data.length ≤ 2 ^ 63 := h
    simp only [access, Access.placement?, write_eq ram addr data (by omega)]
    by_cases hfits : addr.toNat + data.length ≤ 4096
    · rw [if_neg (by omega), if_pos hfits]
    · rw [if_pos (by omega), if_neg hfits]
  | fill addr len byte =>
    have haddr : addr.toNat < 65536 := addr.toNat_lt
    have hlength : len.toNat ≤ 2 ^ 63 := h
    simp only [access, Access.placement?, fill_eq ram addr len byte (by omega)]
    by_cases hfits : addr.toNat + len.toNat ≤ 4096
    · rw [if_neg (by omega), if_pos hfits]
    · rw [if_pos (by omega), if_neg hfits]
  | read addr len =>
    simp only [access, Access.placement?]
    cases ram.slice addr len <;> rfl
  | readWord addr =>
    simp only [access, Access.placement?]
    cases ram.word addr <;> rfl
  | load program =>
    cases program with
    | broken bytes text => rfl
    | whole bytes =>
      simp only [access, Access.placement?, load_whole hprogram]
      by_cases hfits : ram.programAddr.toNat + bytes.length ≤ 4096
      · rw [if_neg (by omega), if_pos hfits]
        rfl
      · rw [if_pos (by omega), if_neg hfits]
        rfl

theorem programAddr_follow {ram : Ram} (hprogram : ram.programAddr.toNat ≤ 4096) {a : Access}
    (h : a.length ≤ 2 ^ 63) : (ram.follow a).programAddr = ram.programAddr := by
  rw [follow_eq hprogram h]
  cases a.placement? ram.programAddr.toNat <;> rfl

theorem cell_follow {ram : Ram} (hprogram : ram.programAddr.toNat ≤ 4096) {a : Access}
    (h : a.length ≤ 2 ^ 63) {cell : Nat} (hcell : cell < 4096) :
    (ram.follow a).cell cell =
      (a.byte? ram.programAddr.toNat cell).getD (ram.cell cell) := by
  rw [follow_eq hprogram h]
  unfold Access.byte?
  cases a.placement? ram.programAddr.toNat with
  | none => rfl
  | some p => exact cell_placed ram p hcell

/-! ## Section 3: Histories -/

/-- What is put into a cell later counts. -/
theorem newest?_cons (programStart : Nat) (a : Access) (later : List Access) (cell : Nat) :
    newest? programStart (a :: later) cell =
      (newest? programStart later cell).or (a.byte? programStart cell) := by
  unfold newest?
  let put (a : Access) : Option UInt8 := a.byte? programStart cell
  show ((a :: later).filterMap put).getLast? = (later.filterMap put).getLast?.or (put a)
  cases hbyte : put a with
  | none => rw [List.filterMap_cons_none hbyte, Option.or_none]
  | some byte =>
    rw [List.filterMap_cons_some hbyte, List.getLast?_cons]
    cases (later.filterMap put).getLast? <;> rfl

theorem programAddr_after {history : List Access} {ram : Ram}
    (hprogram : ram.programAddr.toNat ≤ 4096) (h : ∀ a ∈ history, a.length ≤ 2 ^ 63) :
    (after history ram).programAddr = ram.programAddr := by
  induction history generalizing ram with
  | nil => rfl
  | cons a later ih =>
    rw [List.forall_mem_cons] at h
    have hsame := programAddr_follow hprogram h.1
    have hlater := ih (hsame ▸ hprogram) h.2
    exact hlater.trans hsame

/-- After a history a cell holds what was put into it last. -/
theorem cell_after {history : List Access} {ram : Ram} (hprogram : ram.programAddr.toNat ≤ 4096)
    (h : ∀ a ∈ history, a.length ≤ 2 ^ 63) {cell : Nat} (hcell : cell < 4096) :
    (after history ram).cell cell =
      (newest? ram.programAddr.toNat history cell).getD (ram.cell cell) := by
  induction history generalizing ram with
  | nil => rfl
  | cons a later ih =>
    rw [List.forall_mem_cons] at h
    have hsame := programAddr_follow hprogram h.1
    have hlater := ih (hsame ▸ hprogram) h.2
    rw [hsame, cell_follow hprogram h.1 hcell] at hlater
    rw [newest?_cons, Option.getD_or]
    exact hlater

/-! ## Section 4: The main result -/

/-- Fresh memory holds the font and zeros. -/
theorem cell_fresh {cell : Nat} (h : cell < 4096) : fresh.cell cell = font[cell]?.getD 0 := by
  have hput := getElem_put font (Vector.replicate 4096 0) 0 cell h
  rw [if_pos (Nat.zero_le cell), Nat.sub_zero, Vector.getElem_replicate] at hput
  rw [← hput]
  simp [Ram.cell, fresh, h]

/-- The first byte of a word counts 256-fold. -/
theorem toNat_wordOf (high low : UInt8) :
    (wordOf high low).toNat = 256 * high.toNat + low.toNat := by
  have hshift : (high.toUInt16 <<< 8).toNat = 256 * high.toNat :=
    Opcode.toNat_shiftLeft_byte high 8 (by decide)
  have hlow : low.toUInt16.toNat < 2 ^ 8 := low.toNat_lt
  rw [wordOf, Opcode.toNat_or_of_lt 8 (by omega) hlow, hshift, UInt8.toNat_toUInt16]

/-- Memory after any history of accesses, each of at most `2 ^ 63` bytes, and what it answers then.
    Each cell holds the byte that was put into it last, or what it held at first, which is the font
    or zero in fresh memory; and these are the bytes that are read. Whatever is read, written or
    filled needs its last cell to be one of the 4096, and is refused otherwise with the first
    address outside, which for a word is the case from address 4095 on. A program needs room behind
    the program address and is refused otherwise with its size and the room, and one that breaks
    off is refused with its text. What goes through replaces the cells from its address on, as many
    as there are bytes, and no others. What is refused changes nothing. -/
theorem memory_is_array_of_cells (ram : Ram) (hprogram : ram.programAddr.toNat ≤ 4096)
    (history : List Access) (hlengths : ∀ a ∈ history, a.length ≤ 2 ^ 63) :
    let now := after history ram
    let start := ram.programAddr.toNat
    let held := fun cell => (newest? start history cell).getD (ram.cell cell)
    (∀ cell < 4096, now.cell cell = held cell) ∧
    (∀ cell < 4096, fresh.cell cell = font[cell]?.getD 0) ∧
    (∀ addr len, len.toNat ≤ 2 ^ 63 →
      now.slice addr len =
        if addr.toNat + len.toNat ≤ 4096 then
          .ok ((List.range len.toNat).map fun k => held (addr.toNat + k))
        else .error (.outOfBounds .memory (max addr.toNat 4096))) ∧
    (∀ addr,
      (addr.toNat < 4095 → ∃ word, now.word addr = .ok word ∧
        word.toNat = 256 * (held addr.toNat).toNat + (held (addr.toNat + 1)).toNat) ∧
      (4095 ≤ addr.toNat →
        now.word addr = .error (.outOfBounds .memory (max addr.toNat 4096)))) ∧
    (∀ addr data, data.length ≤ 2 ^ 63 →
      (addr.toNat + data.length ≤ 4096 →
        ∃ next, now.write addr data = .ok next ∧ Replaced now next addr.toNat data) ∧
      (4096 < addr.toNat + data.length →
        now.write addr data = .error (.outOfBounds .memory (max addr.toNat 4096)))) ∧
    (∀ addr len byte, len.toNat ≤ 2 ^ 63 →
      (addr.toNat + len.toNat ≤ 4096 →
        ∃ next, now.fill addr len byte = .ok next ∧
          Replaced now next addr.toNat (List.replicate len.toNat byte)) ∧
      (4096 < addr.toNat + len.toNat →
        now.fill addr len byte = .error (.outOfBounds .memory (max addr.toNat 4096)))) ∧
    (∀ bytes : List UInt8,
      (start + bytes.length ≤ 4096 →
        ∃ next, now.load (.whole bytes) = .ok (bytes.length, next) ∧
          Replaced now next start bytes) ∧
      (4096 < start + bytes.length →
        now.load (.whole bytes) = .error (.programTooLarge bytes.length (4096 - start)))) ∧
    (∀ bytes text, now.load (.broken bytes text) = .error (.device text)) ∧
    ∀ a fault, now.access a = .error fault → after (history ++ [a]) ram = now := by
  intro now start held
  have hcells : ∀ cell < 4096, now.cell cell = held cell :=
    fun cell => cell_after hprogram hlengths
  have hstart : now.programAddr = ram.programAddr := programAddr_after hprogram hlengths
  refine ⟨hcells, fun cell => cell_fresh, ?_, ?_, ?_, ?_, ?_, fun _ _ => rfl, ?_⟩
  · intro addr len hlen
    have haddr : addr.toNat < 65536 := addr.toNat_lt
    rw [slice_eq now addr len (by omega)]
    by_cases hfits : addr.toNat + len.toNat ≤ 4096
    · rw [if_neg (by omega), if_pos hfits]
      congr 1
      show (List.range (Span.length ⟨addr.toNat, addr.toNat + len.toNat⟩)).map _ = _
      rw [length_span]
      apply List.map_congr_left
      intro k hk
      rw [List.mem_range] at hk
      exact hcells (addr.toNat + k) (by omega)
    · rw [if_pos (by omega), if_neg hfits]
      rfl
  · intro addr
    rw [word_eq]
    constructor
    · intro hword
      rw [if_neg (by omega)]
      refine ⟨_, rfl, ?_⟩
      rw [toNat_wordOf, hcells addr.toNat (by omega), hcells (addr.toNat + 1) (by omega)]
    · intro hend
      rw [if_pos hend]
      rfl
  · intro addr data hlen
    have haddr : addr.toNat < 65536 := addr.toNat_lt
    rw [write_eq now addr data (by omega)]
    constructor
    · intro hfits
      rw [if_neg (by omega)]
      exact ⟨_, rfl, replaced_written now hfits⟩
    · intro hpast
      rw [if_pos hpast]
      rfl
  · intro addr len byte hlen
    have haddr : addr.toNat < 65536 := addr.toNat_lt
    rw [fill_eq now addr len byte (by omega)]
    constructor
    · intro hfits
      rw [if_neg (by omega)]
      have hcount : addr.toNat + (List.replicate len.toNat byte).length ≤ 4096 := by
        rw [List.length_replicate]
        exact hfits
      exact ⟨_, rfl, replaced_written now hcount⟩
    · intro hpast
      rw [if_pos hpast]
      rfl
  · intro bytes
    rw [load_whole (hstart ▸ hprogram) bytes, hstart]
    constructor
    · intro hfits
      rw [if_neg (by omega)]
      exact ⟨_, rfl, replaced_written now hfits⟩
    · intro hpast
      rw [if_pos (by omega)]
  · intro a fault hrefused
    show (history ++ [a]).foldl (fun ram a => ram.follow a) ram = now
    rw [List.foldl_append]
    show now.follow a = now
    unfold follow
    rw [hrefused]

/-- The last three cells after a write, a fill over half of it, a write that sticks out by one byte,
    a program of one byte, and one that sticks out as well. At the end of memory there is room for
    no byte but none. -/
theorem last_cells_overwritten :
    let ram : Ram := { fresh with programAddr := 0xffe }
    let history : List Access :=
      [.write 0xffd [1, 2, 3], .fill 0xffe 2 9, .write 0xfff [7, 7], .load (.whole [5]),
        .load (.whole [6, 6, 6]), .readWord 0xfff]
    ram.programAddr.toNat ≤ 4096 ∧ (∀ a ∈ history, a.length ≤ 2 ^ 63) ∧
    (after history ram).slice 0xffd 3 = .ok [1, 5, 9] ∧
    (after history ram).slice 75 5 = .ok [0xf0, 0x80, 0xf0, 0x80, 0x80] ∧
    (after history ram).slice 0x1000 0 = .ok [] ∧
    (after history ram).slice 0xffff 0 = .error (.outOfBounds .memory 0xffff) := by
  intro ram history
  have hprogram : ram.programAddr.toNat ≤ 4096 := by decide
  have hlengths : ∀ a ∈ history, a.length ≤ 2 ^ 63 := by decide
  obtain ⟨-, -, hslice, -⟩ := memory_is_array_of_cells ram hprogram history hlengths
  refine ⟨hprogram, hlengths, ?_, ?_, ?_, ?_⟩
  · exact (hslice 0xffd 3 (by decide)).trans rfl
  · -- no access has come near the font
    have hfits := (hslice 75 5 (by decide)).trans (if_pos (by decide))
    exact hfits.trans (congrArg Except.ok (by decide +kernel))
  · exact hslice 0x1000 0 (by decide)
  · exact hslice 0xffff 0 (by decide)

end Chip8.Ram
