import Chip8.Fault

/-! # Memory

    4096 cells of a byte each. Every access names its first cell and a length in machine words of
    64 bits, is turned into a span, and only then touches the cells. The end of the span is computed
    in machine arithmetic. What becomes of a sum that is too large for it is a choice of the build:
    in the one that is run it is a defect, in the other the sum wraps around. -/

namespace Chip8

/-- What becomes of sums and differences that 64 bits cannot hold. -/
inductive Overflow where
  /-- They are defects. -/
  | trapped
  /-- They wrap around. -/
  | wrapped
  deriving DecidableEq

namespace Overflow

/-- The sum of two numbers of 64 bits. -/
def add (x y : UInt64) : Overflow → Except Fault UInt64
  | trapped => if x.toNat + y.toNat < UInt64.size then .ok (x + y) else .error (.defect .tooLarge)
  | wrapped => .ok (x + y)

/-- Their difference. -/
def sub (x y : UInt64) : Overflow → Except Fault UInt64
  | trapped => if y ≤ x then .ok (x - y) else .error (.defect .belowZero)
  | wrapped => .ok (x - y)

end Overflow

/-- The number of memory cells. -/
def Ram.size : Nat := 4096

/-- Memory, with the address that programs are loaded at. -/
structure Ram where
  /-- The cells, by address. -/
  cells : Vector UInt8 4096
  /-- Where a program goes. -/
  programAddr : UInt16
  deriving DecidableEq

/-- A range of addresses, `stop` excluded. -/
structure Span where
  start : Nat
  stop : Nat
  deriving DecidableEq

/-- The number of addresses in a span. -/
def Span.length (s : Span) : Nat := s.stop - s.start

namespace Ram

/-- The span of `len` cells from `addr` on, unless it ends past the last cell. The fault names the
    first address outside memory. -/
def span (addr : UInt16) (len : UInt64) (overflow : Overflow := .trapped) :
    Except Fault Span := do
  let stop ← overflow.add addr.toUInt64 len
  if stop.toNat > size then throw (.outOfBounds .memory (max addr.toNat size))
  return ⟨addr.toNat, stop.toNat⟩

/-- Does a span fit memory, its end not before its start? -/
def fits (s : Span) : Except Fault Unit :=
  if s.stop < s.start then .error (.defect (.reversed s.start s.stop))
  else if size < s.stop then .error (.defect (.pastEnd s.stop size))
  else .ok ()

/-- The cell at an address; 0 outside memory. -/
def cell (ram : Ram) (addr : Nat) : UInt8 :=
  ram.cells[addr]?.getD 0

/-- The bytes of a span that fits. -/
def bytes (ram : Ram) (s : Span) : List UInt8 :=
  (List.range s.length).map fun i => ram.cell (s.start + i)

/-- The `len` bytes from `addr` on. -/
def slice (ram : Ram) (addr : UInt16) (len : UInt64) (overflow : Overflow := .trapped) :
    Except Fault (List UInt8) := do
  let s ← span addr len overflow
  fits s
  return ram.bytes s

/-- The cells with `data` put in from cell `start` on. -/
def put (cells : Vector UInt8 4096) (start : Nat) : List UInt8 → Vector UInt8 4096
  | [] => cells
  | byte :: data => put (cells.setIfInBounds start byte) (start + 1) data

/-- Where the data goes the data is, and everywhere else memory is as before. -/
theorem getElem_put (data : List UInt8) (cells : Vector UInt8 4096) (start i : Nat)
    (h : i < 4096) :
    (put cells start data)[i] =
      if start ≤ i then data[i - start]?.getD cells[i] else cells[i] := by
  induction data generalizing cells start with
  | nil => simp [put]
  | cons byte data ih =>
    rw [put, ih]
    rcases Nat.lt_trichotomy i start with lt | rfl | gt
    · simp [show ¬ start + 1 ≤ i by omega, show ¬ start ≤ i by omega, show start ≠ i by omega]
    · simp [show ¬ i + 1 ≤ i by omega]
    · simp [show start + 1 ≤ i by omega, show start ≤ i by omega, show start ≠ i by omega,
        show i - start = i - (start + 1) + 1 by omega]

/-- Memory with `data` written from `addr` on. Nothing is written unless all of it fits. -/
def write (ram : Ram) (addr : UInt16) (data : List UInt8) (overflow : Overflow := .trapped) :
    Except Fault Ram := do
  let s ← span addr (UInt64.ofNat data.length) overflow
  fits s
  if s.length ≠ data.length then throw (.defect (.unequal data.length s.length))
  return { ram with cells := put ram.cells s.start data }

/-- Memory with the `len` cells from `addr` on set to `byte`. -/
def fill (ram : Ram) (addr : UInt16) (len : UInt64) (byte : UInt8)
    (overflow : Overflow := .trapped) : Except Fault Ram := do
  let s ← span addr len overflow
  fits s
  return { ram with cells := put ram.cells s.start (List.replicate s.length byte) }

/-- A word of two bytes, the first one high. -/
def wordOf (high low : UInt8) : UInt16 :=
  (high.toUInt16 <<< 8) ||| low.toUInt16

/-- The word at `addr`. -/
def word (ram : Ram) (addr : UInt16) : Except Fault UInt16 := do
  match ← ram.slice addr 2 with
  | [high, low] => return wordOf high low
  | other => throw (.defect (.noSlot 1 other.length))

end Ram

end Chip8
