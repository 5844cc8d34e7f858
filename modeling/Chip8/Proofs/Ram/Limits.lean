import Chip8.Proofs.Ram.History

/-! # Memory at the limits of 64 bits

    The end of a span is computed in 64 bits before it is compared with the size of memory. Where
    address and length need more bits than that, the addition itself is a defect in the build that
    is run. In the other build the end is what is left of the sum. If this lies in memory, or just
    behind it, the span gets through the check although it ends before it starts, and using it is a
    defect. All other spans are judged as their sum says.

    The room for a program is computed in 64 bits as well. From a program address past the end of
    memory the build that is run stops there, while in the other build there seems to be room for
    almost anything. But the write that follows judges the span once more, and no program is so long
    that its end needs more than 64 bits. -/

namespace Chip8.Ram

/-! ## Section 1: Sums that need more than 64 bits -/

/-- The answer of an access that goes by the sum of address and length alone: `result` if the sum is
    in memory or just behind it, and otherwise the first address outside. -/
def bySum {α : Type} (addr : UInt16) (len : UInt64) (result : α) : Except Fault α :=
  if addr.toNat + len.toNat ≤ 4096 then .ok result
  else .error (.outOfBounds .memory (max addr.toNat 4096))

/-- The sum of address and length needs more than 64 bits, and what is left of it in 64 bits passes
    for the end of a span in memory. -/
def Wraps (addr : UInt16) (len : UInt64) : Prop :=
  2 ^ 64 ≤ addr.toNat + len.toNat ∧ addr.toNat + len.toNat ≤ 2 ^ 64 + 4096

instance (addr : UInt16) (len : UInt64) : Decidable (Wraps addr len) := by
  unfold Wraps
  infer_instance

/-- The defect that the use of a span comes to, if it comes to one. -/
def slip? (addr : UInt16) (len : UInt64) : Overflow → Option Defect
  | .trapped => if 2 ^ 64 ≤ addr.toNat + len.toNat then some .tooLarge else none
  | .wrapped =>
    if Wraps addr len then some (.reversed addr.toNat (addr.toNat + len.toNat - 2 ^ 64)) else none

section

variable {α : Type} {addr : UInt16} {len : UInt64} (use : Span → α)

/-- As long as the sum needs no more than 64 bits, every access goes by it. -/
theorem checked_of_exact {o : Overflow} (h : addr.toNat + len.toNat < 2 ^ 64) :
    checked o addr len use = bySum addr len (use ⟨addr.toNat, addr.toNat + len.toNat⟩) := by
  rw [checked_of_lt use h, bySum]
  by_cases hfits : addr.toNat + len.toNat ≤ 4096
  · rw [if_pos hfits, if_neg (by omega)]
  · rw [if_neg hfits, if_pos (by omega)]
    rfl

theorem span_of_tooLarge (h : 2 ^ 64 ≤ addr.toNat + len.toNat) :
    span addr len = .error (.defect .tooLarge) := by
  have hadd : Overflow.trapped.add addr.toUInt64 len = .error (.defect .tooLarge) :=
    if_neg (Nat.not_lt.mpr h)
  unfold span
  rw [hadd]
  rfl

/-- What wraps around leaves the sum less `2 ^ 64`. -/
theorem span_of_wrapped (h : 2 ^ 64 ≤ addr.toNat + len.toNat) :
    span addr len .wrapped =
      if 4096 < addr.toNat + len.toNat - 2 ^ 64 then .error (outside addr)
      else .ok ⟨addr.toNat, addr.toNat + len.toNat - 2 ^ 64⟩ := by
  have haddr : addr.toNat < 65536 := addr.toNat_lt
  have hlen : len.toNat < 2 ^ 64 := len.toNat_lt
  have hstop : (addr.toUInt64 + len).toNat = addr.toNat + len.toNat - 2 ^ 64 := by
    rw [UInt64.toNat_add, UInt16.toNat_toUInt64]
    omega
  have hadd : Overflow.wrapped.add addr.toUInt64 len = .ok (addr.toUInt64 + len) := rfl
  rw [span_of_add hadd, hstop]

/-- It ends before it starts, for no length is as much as there are numbers of 64 bits. -/
theorem Wraps.fits (h : Wraps addr len) :
    fits ⟨addr.toNat, addr.toNat + len.toNat - 2 ^ 64⟩ =
      .error (.defect (.reversed addr.toNat (addr.toNat + len.toNat - 2 ^ 64))) := by
  have hlarge := h.1
  have hlen : len.toNat < 2 ^ 64 := len.toNat_lt
  have hback : addr.toNat + len.toNat - 2 ^ 64 < addr.toNat := by omega
  simp only [Ram.fits, hback, if_true]

theorem bySum_ne_defect {result : α} {defect : Defect} :
    bySum addr len result ≠ .error (.defect defect) := by
  unfold bySum
  split <;> simp

variable (o : Overflow) (addr : UInt16) (len : UInt64)

/-- What becomes of a span of any length: a defect, or what its sum says. -/
theorem checked_eq :
    checked o addr len use =
      match slip? addr len o with
      | some defect => .error (.defect defect)
      | none => bySum addr len (use ⟨addr.toNat, addr.toNat + len.toNat⟩) := by
  by_cases hexact : addr.toNat + len.toNat < 2 ^ 64
  · have hnone : slip? addr len o = none := by
      cases o with
      | trapped => exact if_neg (by omega)
      | wrapped => exact if_neg fun hwraps => Nat.not_le.mpr hexact hwraps.1
    rw [hnone, checked_of_exact use hexact]
  have hlarge : 2 ^ 64 ≤ addr.toNat + len.toNat := by omega
  cases o with
  | trapped => rw [checked_of_error use (span_of_tooLarge hlarge), slip?, if_pos hlarge]
  | wrapped =>
    have hspan := span_of_wrapped hlarge
    by_cases hwraps : Wraps addr len
    · have hinside := hwraps.2
      rw [if_neg (by omega)] at hspan
      rw [checked_of_ok use hspan, hwraps.fits, slip?, if_pos hwraps]
      rfl
    · -- what is left of the sum is still outside
      have hpast : 4096 < addr.toNat + len.toNat - 2 ^ 64 := by
        unfold Wraps at hwraps
        omega
      rw [if_pos hpast] at hspan
      rw [checked_of_error use hspan, slip?, if_neg hwraps]
      exact (if_neg (by omega)).symm

theorem checked_eq_bySum_iff :
    checked o addr len use = bySum addr len (use ⟨addr.toNat, addr.toNat + len.toNat⟩) ↔
      slip? addr len o = none := by
  rw [checked_eq]
  cases slip? addr len o with
  | none => simp
  | some defect => simpa using bySum_ne_defect.symm

theorem checked_ok_iff :
    (∃ result, checked o addr len use = .ok result) ↔ addr.toNat + len.toNat ≤ 4096 := by
  by_cases hexact : addr.toNat + len.toNat < 2 ^ 64
  · rw [checked_of_exact use hexact, bySum]
    by_cases hfits : addr.toNat + len.toNat ≤ 4096 <;> simp [hfits]
  · have hpast : ¬ addr.toNat + len.toNat ≤ 4096 := by omega
    rw [checked_eq]
    cases slip? addr len o with
    | none => simp [bySum, hpast]
    | some defect => simp [hpast]

end

/-! ## Section 2: Reading and filling spans of any length -/

theorem bytes_eq (ram : Ram) (start len : Nat) :
    ram.bytes ⟨start, start + len⟩ = (List.range len).map fun k => ram.cell (start + k) := by
  rw [bytes, length_span]

/-- For every address and every length of 64 bits: a read answers with the cells, and a fill sets
    them, exactly if the sum of address and length is at most the size of memory, in either build.
    In the one that is run both answer as this sum says, also where they refuse, exactly if it needs
    no more than 64 bits. If it needs more, the sum itself is the defect. In the other build both
    answer as the sum says exactly unless it wraps around to an address in memory or just behind it.
    Then both are defects too: the span ends before it starts. -/
theorem lawful_unless_overflow (ram : Ram) (addr : UInt16) (len : UInt64) (byte : UInt8) :
    let sum := addr.toNat + len.toNat
    let cells := (List.range len.toNat).map fun k => ram.cell (addr.toNat + k)
    let filled := ram.written addr.toNat (List.replicate len.toNat byte)
    let reversed := Fault.defect (.reversed addr.toNat (sum - 2 ^ 64))
    (∀ overflow, ((∃ bytes, ram.slice addr len overflow = .ok bytes) ↔ sum ≤ 4096) ∧
      ((∃ next, ram.fill addr len byte overflow = .ok next) ↔ sum ≤ 4096)) ∧
    (ram.slice addr len = bySum addr len cells ↔ sum < 2 ^ 64) ∧
    (ram.fill addr len byte = bySum addr len filled ↔ sum < 2 ^ 64) ∧
    (2 ^ 64 ≤ sum →
      ram.slice addr len = .error (.defect .tooLarge) ∧
      ram.fill addr len byte = .error (.defect .tooLarge)) ∧
    (ram.slice addr len .wrapped = bySum addr len cells ↔ ¬ Wraps addr len) ∧
    (ram.fill addr len byte .wrapped = bySum addr len filled ↔ ¬ Wraps addr len) ∧
    (Wraps addr len →
      ram.slice addr len .wrapped = .error reversed ∧
      ram.fill addr len byte .wrapped = .error reversed) := by
  intro sum cells filled reversed
  have hslice := fun o => checked_eq_bySum_iff ram.bytes o addr len
  have hfill := fun o => checked_eq_bySum_iff
    (fun s => ram.written s.start (List.replicate s.length byte)) o addr len
  rw [bytes_eq] at hslice
  rw [length_span] at hfill
  have htrapped : slip? addr len .trapped = none ↔ sum < 2 ^ 64 := by simp [slip?, sum]
  have hwrapped : slip? addr len .wrapped = none ↔ ¬ Wraps addr len := by simp [slip?]
  refine ⟨fun o => ⟨checked_ok_iff _ o addr len, checked_ok_iff _ o addr len⟩,
    (hslice _).trans htrapped, (hfill _).trans htrapped, fun hlarge => ?_,
    (hslice _).trans hwrapped, (hfill _).trans hwrapped, fun hwraps => ?_⟩
  · have hslip : slip? addr len .trapped = some .tooLarge := if_pos hlarge
    rw [slice_eq_checked, fill_eq_checked, checked_eq, checked_eq, hslip]
    exact ⟨rfl, rfl⟩
  · have hslip : slip? addr len .wrapped = some (.reversed addr.toNat (sum - 2 ^ 64)) :=
      if_pos hwraps
    rw [slice_eq_checked, fill_eq_checked, checked_eq, checked_eq, hslip]
    exact ⟨rfl, rfl⟩

/-- As many cells as 64 bits can count, from address 1 on: whether the sum is a defect or the span
    ends at 0, the answer is not that memory ends at 4096. -/
theorem longest_span_is_defect :
    (1 : UInt16).toNat + (0xffffffffffffffff : UInt64).toNat = 2 ^ 64 ∧
    fresh.slice 1 0xffffffffffffffff = .error (.defect .tooLarge) ∧
    fresh.fill 1 0xffffffffffffffff 0 = .error (.defect .tooLarge) ∧
    fresh.slice 1 0xffffffffffffffff ≠ .error (.outOfBounds .memory 4096) ∧
    fresh.slice 1 0xffffffffffffffff .wrapped = .error (.defect (.reversed 1 0)) ∧
    fresh.fill 1 0xffffffffffffffff 0 .wrapped = .error (.defect (.reversed 1 0)) := by
  have hslice : fresh.slice 1 0xffffffffffffffff = .error (.defect .tooLarge) := rfl
  refine ⟨rfl, hslice, rfl, ?_, rfl, rfl⟩
  rw [hslice]
  simp

/-! ## Section 3: Loading at any address -/

/-- Past the end of memory the room is a difference below zero, and the build that is run stops
    there. Up to that address both builds load alike. -/
theorem load_trapped_eq (ram : Ram) (bytes : List UInt8) :
    ram.load (.whole bytes) =
      if 4096 < ram.programAddr.toNat then .error (.defect .belowZero)
      else ram.load (.whole bytes) .wrapped := by
  by_cases hpast : 4096 < ram.programAddr.toNat
  · have hroom : ram.room = .error (.defect .belowZero) := by
      refine if_neg (UInt64.not_le.mpr ?_)
      rw [UInt64.lt_iff_toNat_lt, UInt16.toNat_toUInt64]
      exact hpast
    rw [if_pos hpast, load, hroom]
    rfl
  · have hstart : ram.programAddr.toNat ≤ 4096 := Nat.not_lt.mp hpast
    rw [if_neg hpast, load_whole hstart, load_whole hstart]

/-- Where the room wraps around, it is almost as much as 64 bits can count. -/
theorem room_wrapped_of_gt {ram : Ram} (h : 4096 < ram.programAddr.toNat) :
    ∃ room, ram.room .wrapped = .ok room ∧ room.toNat = 2 ^ 64 + 4096 - ram.programAddr.toNat := by
  have haddr : ram.programAddr.toNat < 65536 := ram.programAddr.toNat_lt
  have hsize : (UInt64.ofNat size).toNat = 4096 := rfl
  refine ⟨_, rfl, ?_⟩
  rw [UInt64.toNat_sub, UInt16.toNat_toUInt64, hsize]
  omega

/-- So the size of a program does not matter there, but none fits. -/
theorem load_wrapped_of_gt {ram : Ram} (h : 4096 < ram.programAddr.toNat) {bytes : List UInt8}
    (hlength : bytes.length ≤ 2 ^ 63) :
    ram.load (.whole bytes) .wrapped = .error (.outOfBounds .memory ram.programAddr.toNat) := by
  have haddr : ram.programAddr.toNat < 65536 := ram.programAddr.toNat_lt
  obtain ⟨room, hroom, hleft⟩ := room_wrapped_of_gt h
  have hpast : 4096 < ram.programAddr.toNat + bytes.length := by omega
  rw [load_of_room hroom, hleft, if_neg (by omega), write_eq ram ram.programAddr bytes (by omega),
    if_pos hpast, outside, Nat.max_eq_left (Nat.le_of_lt h)]
  rfl

/-- There is one memory with these bytes put in and nothing else changed. -/
theorem Replaced.unique {ram a b : Ram} {start : Nat} {data : List UInt8}
    (ha : Replaced ram a start data) (hb : Replaced ram b start data) : a = b := by
  refine eq_of_cells ?_ (ha.programAddr.trans hb.programAddr.symm)
  intro cell _
  by_cases hinside : start ≤ cell ∧ cell < start + data.length
  · obtain ⟨k, rfl⟩ := Nat.exists_eq_add_of_le hinside.1
    have hk : k < data.length := by omega
    rw [ha.inside k hk, hb.inside k hk]
  · rw [ha.outside cell (by omega), hb.outside cell (by omega)]

/-- Loading at any program address, by one test after the other. -/
theorem load_wrapped_eq (ram : Ram) {bytes : List UInt8} (hlength : bytes.length ≤ 2 ^ 63) :
    ram.load (.whole bytes) .wrapped =
      let start := ram.programAddr.toNat
      if 4096 < start then .error (.outOfBounds .memory start)
      else if 4096 < start + bytes.length then
        .error (.programTooLarge bytes.length (4096 - start))
      else .ok (bytes.length, ram.written start bytes) := by
  dsimp only
  by_cases hpast : 4096 < ram.programAddr.toNat
  · rw [if_pos hpast, load_wrapped_of_gt hpast hlength]
  rw [if_neg hpast, load_whole (by omega)]
  by_cases hlarge : 4096 < ram.programAddr.toNat + bytes.length
  · rw [if_pos hlarge, if_pos (by omega)]
  · rw [if_neg hlarge, if_neg (by omega)]

section

variable {ram : Ram} {program : Delivery} (hlength : (Access.load program).length ≤ 2 ^ 63)
include hlength

theorem load_ok_iff (size : Nat) (next : Ram) :
    ram.load program .wrapped = .ok (size, next) ↔
      ∃ bytes, program = .whole bytes ∧ size = bytes.length ∧
        ram.programAddr.toNat + bytes.length ≤ 4096 ∧
        Replaced ram next ram.programAddr.toNat bytes := by
  cases program with
  | broken bytes text => simp [load]
  | whole bytes =>
    simp only [load_wrapped_eq ram hlength, Delivery.whole.injEq, exists_eq_left']
    by_cases hfits : ram.programAddr.toNat + bytes.length ≤ 4096
    · have hstart : ¬ 4096 < ram.programAddr.toNat := by omega
      have hend : ¬ 4096 < ram.programAddr.toNat + bytes.length := by omega
      have hreplaced := replaced_written ram hfits
      simp only [hstart, hend, hfits, if_false, Except.ok.injEq, Prod.mk.injEq, true_and]
      refine and_congr eq_comm ⟨fun hnext => hnext ▸ hreplaced, fun hnext => ?_⟩
      exact hreplaced.unique hnext
    · by_cases hstart : 4096 < ram.programAddr.toNat
      · simp [hstart, hfits]
      · simp [hstart, hfits, Nat.not_le.mp hfits]

theorem load_error_iff (fault : Fault) :
    ram.load program .wrapped = .error fault ↔
      (∃ bytes text, program = .broken bytes text ∧ fault = .device text) ∨
      (∃ bytes, program = .whole bytes ∧ ram.programAddr.toNat ≤ 4096 ∧
        4096 < ram.programAddr.toNat + bytes.length ∧
        fault = .programTooLarge bytes.length (4096 - ram.programAddr.toNat)) ∨
      ∃ bytes, program = .whole bytes ∧ 4096 < ram.programAddr.toNat ∧
        fault = .outOfBounds .memory ram.programAddr.toNat := by
  cases program with
  | broken bytes text =>
    have hload : ram.load (.broken bytes text) .wrapped = .error (.device text) := rfl
    rw [hload, Except.error.injEq, eq_comm]
    simp [and_assoc]
  | whole bytes =>
    simp only [load_wrapped_eq ram hlength, Delivery.whole.injEq, exists_eq_left', reduceCtorEq,
      false_and, exists_false, false_or]
    by_cases hstart : 4096 < ram.programAddr.toNat
    · simp [hstart, Nat.not_le.mpr hstart, eq_comm]
    · by_cases hend : 4096 < ram.programAddr.toNat + bytes.length
      · simp [hstart, hend, Nat.not_lt.mp hstart, eq_comm]
      · simp [hstart, hend]

end

/-- A program is loaded whole or not at all, whatever memory holds and wherever programs go in it.
    It is loaded exactly if its bytes arrive and there is room for them from the program address on,
    and then they replace as many cells from there on and no others. Otherwise nothing changes, and
    the fault says why: the reader failed; or the program is larger than the room, which is told
    with its size; or there is no such address as the program address, even if there are no bytes to
    load. None of these faults is a defect. This is the build in which sums wrap around; the other
    one differs past the end of memory, as `load_trapped_eq` says. A program of more than `2 ^ 63`
    bytes has no place in an address space of 64 bits and cannot be read in the first place. -/
theorem load_is_atomic_at_any_address (ram : Ram) (program : Delivery)
    (hlength : (Access.load program).length ≤ 2 ^ 63) :
    let start := ram.programAddr.toNat
    (∀ size next, ram.load program .wrapped = .ok (size, next) ↔
      ∃ bytes, program = .whole bytes ∧ size = bytes.length ∧ start + bytes.length ≤ 4096 ∧
        Replaced ram next start bytes) ∧
    (∀ fault, ram.load program .wrapped = .error fault ↔
      (∃ bytes text, program = .broken bytes text ∧ fault = .device text) ∨
      (∃ bytes, program = .whole bytes ∧ start ≤ 4096 ∧ 4096 < start + bytes.length ∧
        fault = .programTooLarge bytes.length (4096 - start)) ∨
      ∃ bytes, program = .whole bytes ∧ 4096 < start ∧ fault = .outOfBounds .memory start) ∧
    ∀ fault, ram.load program .wrapped = .error fault →
      fault.isDefect = false ∧ ram.follow (.load program) .wrapped = ram := by
  intro start
  refine ⟨load_ok_iff hlength, load_error_iff hlength, fun fault hfault => ⟨?_, ?_⟩⟩
  · rcases (load_error_iff hlength fault).mp hfault with
      ⟨_, _, -, rfl⟩ | ⟨_, -, -, -, rfl⟩ | ⟨_, -, -, rfl⟩
    · rfl
    · rfl
    · rfl
  · simp [follow, access, hfault, Except.map]

/-- One address further on there is no room for no bytes either, while a byte still fits into the
    last cell. -/
theorem nothing_fits_past_the_end :
    let last : Ram := { fresh with programAddr := 0xfff }
    let past : Ram := { fresh with programAddr := 0x1001 }
    (Access.load (.whole [7])).length ≤ 2 ^ 63 ∧ (Access.load (.whole [])).length ≤ 2 ^ 63 ∧
    (∃ next, last.load (.whole [7]) .wrapped = .ok (1, next) ∧ next.cell 0xfff = 7) ∧
    past.load (.whole []) .wrapped = .error (.outOfBounds .memory 0x1001) ∧
    past.follow (.load (.whole [])) .wrapped = past := by
  intro last past
  have hone : (Access.load (.whole [7])).length ≤ 2 ^ 63 := by decide
  have hnone : (Access.load (.whole [])).length ≤ 2 ^ 63 := by decide
  obtain ⟨hok, -, -⟩ := load_is_atomic_at_any_address last (.whole [7]) hone
  obtain ⟨-, herror, hkept⟩ := load_is_atomic_at_any_address past (.whole []) hnone
  have hreplaced : Replaced last (last.written 0xfff [7]) 0xfff [7] :=
    replaced_written last (by decide)
  have hpast : past.load (.whole []) .wrapped = .error (.outOfBounds .memory 0x1001) :=
    (herror _).mpr (.inr (.inr ⟨[], rfl, by decide, rfl⟩))
  refine ⟨hone, hnone, ⟨_, (hok _ _).mpr ⟨[7], rfl, rfl, by decide, hreplaced⟩, ?_⟩, hpast,
    (hkept _ hpast).2⟩
  exact hreplaced.inside 0 (by decide)

end Chip8.Ram
