import Chip8.Ram.Font
import Chip8.Ram.Load
import Mathlib.Algebra.Group.Nat.Defs

/-! # Memory accesses in closed form

    Every access computes the end of its span in 64-bit arithmetic, compares it with the size of
    memory and only then touches cells. Here each access is written as one test on natural numbers
    and one result. The hypothesis that comes back is that the sum of address and length stays below
    `2 ^ 64`, which every length that an instruction asks for satisfies. Under it both builds do the
    same. -/

namespace Chip8.Ram

/-- The fault of an access from `addr` on that does not fit memory. -/
def outside (addr : UInt16) : Fault := .outOfBounds .memory (max addr.toNat 4096)

/-- Memory with `data` from cell `start` on, whether or not it fits. -/
def written (ram : Ram) (start : Nat) (data : List UInt8) : Ram :=
  { ram with cells := put ram.cells start data }

@[simp] theorem written_programAddr (ram : Ram) (start : Nat) (data : List UInt8) :
    (ram.written start data).programAddr = ram.programAddr := rfl

/-- A cell after a write: a byte of the data, or what it was. -/
theorem cell_written (ram : Ram) (start : Nat) (data : List UInt8) {addr : Nat} (h : addr < 4096) :
    (ram.written start data).cell addr =
      if start ≤ addr then data[addr - start]?.getD (ram.cell addr) else ram.cell addr := by
  have hcell : ram.cell addr = ram.cells[addr] := by simp [cell, h]
  have hput := getElem_put data ram.cells start addr h
  rw [← hcell] at hput
  rw [← hput]
  simp [cell, written, h]

/-- Past the last cell there is nothing to see. -/
theorem cell_of_le (ram : Ram) {addr : Nat} (h : 4096 ≤ addr) : ram.cell addr = 0 := by
  simp [cell, h]

theorem cell_written_inside (ram : Ram) {start : Nat} {data : List UInt8} {k : Nat}
    (hk : k < data.length) (h : start + k < 4096) :
    (ram.written start data).cell (start + k) = data[k] := by
  rw [cell_written ram start data h, if_pos (Nat.le_add_right start k), Nat.add_sub_cancel_left,
    List.getElem?_eq_getElem hk]
  rfl

theorem cell_written_outside (ram : Ram) {start : Nat} {data : List UInt8} {addr : Nat}
    (h : addr < start ∨ start + data.length ≤ addr) :
    (ram.written start data).cell addr = ram.cell addr := by
  by_cases hpast : 4096 ≤ addr
  · rw [cell_of_le _ hpast, cell_of_le _ hpast]
  rw [cell_written ram start data (by omega)]
  rcases h with hbefore | hbehind
  · rw [if_neg (by omega)]
  · rw [if_pos (by omega), List.getElem?_eq_none (by omega)]
    rfl

theorem eq_of_cells {a b : Ram} (hcells : ∀ addr < 4096, a.cell addr = b.cell addr)
    (hprogram : a.programAddr = b.programAddr) : a = b := by
  obtain ⟨cellsA, programA⟩ := a
  obtain ⟨cellsB, programB⟩ := b
  have hsame : cellsA = cellsB := by
    apply Vector.ext
    intro addr haddr
    simpa [cell, haddr] using hcells addr haddr
  cases hsame
  cases hprogram
  rfl

/-- To write what is there already changes nothing. -/
theorem written_held {ram : Ram} {start : Nat} {data : List UInt8}
    (h : ∀ (k : Nat) (hk : k < data.length), ram.cell (start + k) = data[k]) :
    ram.written start data = ram := by
  refine eq_of_cells ?_ rfl
  intro addr haddr
  by_cases hinside : start ≤ addr ∧ addr < start + data.length
  · obtain ⟨k, rfl⟩ := Nat.exists_eq_add_of_le hinside.1
    have hk : k < data.length := by omega
    rw [cell_written_inside ram hk haddr, h k hk]
  · exact cell_written_outside ram (by omega)

/-! ### Spans -/

/-- A sum below `2 ^ 64` is what it is, whatever becomes of those that are not. -/
theorem toNat_add {o : Overflow} {x y : UInt64} (h : x.toNat + y.toNat < 2 ^ 64) :
    ∃ sum, o.add x y = .ok sum ∧ sum.toNat = x.toNat + y.toNat := by
  refine ⟨x + y, ?_, by rw [UInt64.toNat_add, Nat.mod_eq_of_lt h]⟩
  cases o with
  | trapped => exact if_pos h
  | wrapped => rfl

/-- The span is judged by the end that comes out. -/
theorem span_of_add {o : Overflow} {addr : UInt16} {len stop : UInt64}
    (h : o.add addr.toUInt64 len = .ok stop) :
    span addr len o =
      if 4096 < stop.toNat then .error (outside addr) else .ok ⟨addr.toNat, stop.toNat⟩ := by
  unfold span
  rw [h]
  rfl

theorem span_eq {o : Overflow} (addr : UInt16) (len : UInt64)
    (h : addr.toNat + len.toNat < 2 ^ 64) :
    span addr len o =
      if 4096 < addr.toNat + len.toNat then .error (outside addr)
      else .ok ⟨addr.toNat, addr.toNat + len.toNat⟩ := by
  obtain ⟨stop, hadd, hstop⟩ := toNat_add (o := o) (x := addr.toUInt64) h
  rw [span_of_add hadd, hstop, UInt16.toNat_toUInt64]

/-- A span from `start` up to a later cell of memory passes the second check. -/
theorem fits_forward (start len : Nat) (h : start + len ≤ 4096) :
    fits ⟨start, start + len⟩ = .ok () := by
  have hforward : ¬ start + len < start := by omega
  have hinside : ¬ size < start + len := by simp only [size]; omega
  simp only [fits, hforward, hinside, if_false]

@[simp] theorem length_span (start len : Nat) : Span.length ⟨start, start + len⟩ = len := by
  simp [Span.length]

@[simp] theorem length_bytes (ram : Ram) (s : Span) : (ram.bytes s).length = s.length := by
  simp [bytes]

/-- The byte at position `k` of a span is the cell `k` places after its start. -/
theorem getElem?_bytes (ram : Ram) (start len k : Nat) :
    (ram.bytes ⟨start, start + len⟩)[k]? =
      if k < len then some (ram.cell (start + k)) else none := by
  by_cases h : k < len
  · simp [bytes, h]
  · simp [bytes, h]

/-! ### Reading and writing -/

/-- Ask for a span, check it against memory, and use it. -/
def checked {α : Type} (o : Overflow) (addr : UInt16) (len : UInt64) (use : Span → α) :
    Except Fault α := do
  let s ← span addr len o
  fits s
  return use s

section

variable {α : Type} {o : Overflow} {addr : UInt16} {len : UInt64} (use : Span → α)

theorem checked_of_ok {s : Span} (h : span addr len o = .ok s) :
    checked o addr len use = (fits s).map fun _ => use s := by
  -- the span stays a variable: those of wrapped sums are too large to compute with
  rw [checked, h]
  show (fits s).bind (fun _ => .ok (use s)) = _
  cases fits s <;> rfl

theorem checked_of_error {fault : Fault} (h : span addr len o = .error fault) :
    checked o addr len use = .error fault := by
  rw [checked, h]
  rfl

theorem checked_of_lt (h : addr.toNat + len.toNat < 2 ^ 64) :
    checked o addr len use =
      if 4096 < addr.toNat + len.toNat then .error (outside addr)
      else .ok (use ⟨addr.toNat, addr.toNat + len.toNat⟩) := by
  have hspan := span_eq (o := o) addr len h
  by_cases hend : 4096 < addr.toNat + len.toNat
  · rw [if_pos hend] at hspan ⊢
    exact checked_of_error use hspan
  · -- what passes the check of the span passes the check of the cells
    rw [if_neg hend] at hspan ⊢
    rw [checked_of_ok use hspan, fits_forward addr.toNat len.toNat (by omega)]
    rfl

end

variable {o : Overflow}

theorem slice_eq_checked (ram : Ram) (addr : UInt16) (len : UInt64) :
    ram.slice addr len o = checked o addr len ram.bytes := rfl

theorem fill_eq_checked (ram : Ram) (addr : UInt16) (len : UInt64) (byte : UInt8) :
    ram.fill addr len byte o =
      checked o addr len fun s => ram.written s.start (List.replicate s.length byte) := rfl

theorem slice_eq (ram : Ram) (addr : UInt16) (len : UInt64)
    (h : addr.toNat + len.toNat < 2 ^ 64) :
    ram.slice addr len o =
      if 4096 < addr.toNat + len.toNat then .error (outside addr)
      else .ok (ram.bytes ⟨addr.toNat, addr.toNat + len.toNat⟩) :=
  checked_of_lt ram.bytes h

theorem write_eq (ram : Ram) (addr : UInt16) (data : List UInt8)
    (h : addr.toNat + data.length < 2 ^ 64) :
    ram.write addr data o =
      if 4096 < addr.toNat + data.length then .error (outside addr)
      else .ok (ram.written addr.toNat data) := by
  have hlen : (UInt64.ofNat data.length).toNat = data.length := by
    rw [UInt64.toNat_ofNat']
    exact Nat.mod_eq_of_lt (by omega)
  unfold write
  rw [span_eq addr _ (by rw [hlen]; exact h), hlen]
  by_cases hend : 4096 < addr.toNat + data.length
  · simp only [hend, if_true]
    rfl
  · have hfits := fits_forward addr.toNat data.length (by omega)
    simp only [hend, if_false, bind, Except.bind, hfits, length_span, ne_eq, not_true_eq_false]
    rfl

theorem fill_eq (ram : Ram) (addr : UInt16) (len : UInt64) (byte : UInt8)
    (h : addr.toNat + len.toNat < 2 ^ 64) :
    ram.fill addr len byte o =
      if 4096 < addr.toNat + len.toNat then .error (outside addr)
      else .ok (ram.written addr.toNat (List.replicate len.toNat byte)) := by
  rw [fill_eq_checked, checked_of_lt _ h, length_span]

/-- The word at `addr` needs the cells `addr` and `addr + 1`. -/
theorem word_eq (ram : Ram) (addr : UInt16) :
    ram.word addr =
      if 4095 ≤ addr.toNat then .error (outside addr)
      else .ok (wordOf (ram.cell addr.toNat) (ram.cell (addr.toNat + 1))) := by
  have haddr : addr.toNat < 65536 := addr.toNat_lt
  have hslice := slice_eq (o := .trapped) ram addr 2 (by simp; omega)
  have htwo : (2 : UInt64).toNat = 2 := rfl
  rw [htwo] at hslice
  unfold word
  rw [hslice]
  by_cases hend : 4095 ≤ addr.toNat
  · have hpast : 4096 < addr.toNat + 2 := by omega
    simp only [hend, hpast, if_true]
    rfl
  · have hpast : ¬ 4096 < addr.toNat + 2 := by omega
    have hbytes : ram.bytes ⟨addr.toNat, addr.toNat + 2⟩ =
        [ram.cell addr.toNat, ram.cell (addr.toNat + 1)] := by
      simp [bytes, Span.length, List.range_succ]
    simp only [hend, hpast, if_false, hbytes]
    rfl

/-! ### Loading -/

/-- The room for a program, where the program address lies in memory. -/
theorem toNat_room {ram : Ram} (h : ram.programAddr.toNat ≤ 4096) :
    ∃ room, ram.room o = .ok room ∧ room.toNat = 4096 - ram.programAddr.toNat := by
  have hsize : (UInt64.ofNat size).toNat = 4096 := rfl
  have hle : ram.programAddr.toUInt64 ≤ UInt64.ofNat size := by
    rw [UInt64.le_iff_toNat_le, UInt16.toNat_toUInt64, hsize]
    exact h
  refine ⟨UInt64.ofNat size - ram.programAddr.toUInt64, ?_, ?_⟩
  · cases o with
    | trapped => exact if_pos hle
    | wrapped => rfl
  · rw [UInt64.toNat_sub_of_le _ _ hle, UInt16.toNat_toUInt64, hsize]

/-- A load by the room that there is. -/
theorem load_of_room {ram : Ram} {room : UInt64} (h : ram.room o = .ok room)
    (bytes : List UInt8) :
    ram.load (.whole bytes) o =
      if room.toNat < bytes.length then .error (.programTooLarge bytes.length room.toNat)
      else (ram.write ram.programAddr bytes o).map fun loaded => (bytes.length, loaded) := by
  unfold load
  rw [h]
  show (if room.toNat < bytes.length then _ else _) = _
  by_cases hsize : room.toNat < bytes.length
  · rw [if_pos hsize, if_pos hsize]
    rfl
  · rw [if_neg hsize, if_neg hsize]
    cases ram.write ram.programAddr bytes o <;> rfl

theorem load_whole {ram : Ram} (h : ram.programAddr.toNat ≤ 4096) (bytes : List UInt8) :
    ram.load (.whole bytes) o =
      if 4096 - ram.programAddr.toNat < bytes.length then
        .error (.programTooLarge bytes.length (4096 - ram.programAddr.toNat))
      else .ok (bytes.length, ram.written ram.programAddr.toNat bytes) := by
  obtain ⟨room, hroom, hleft⟩ := toNat_room (o := o) h
  rw [load_of_room hroom, hleft]
  by_cases hsize : 4096 - ram.programAddr.toNat < bytes.length
  · rw [if_pos hsize, if_pos hsize]
  · -- a program that is not too large fits behind the program address
    have hend : ¬ 4096 < ram.programAddr.toNat + bytes.length := by omega
    rw [if_neg hsize, if_neg hsize, write_eq ram ram.programAddr bytes (by omega), if_neg hend]
    rfl

end Chip8.Ram
