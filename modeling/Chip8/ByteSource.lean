import Chip8.Fault

/-! # Sources of random bytes

    A source hands out one byte after another. Where a run has to be repeatable the bytes come
    from a fixed cycle or from steps of a fixed size. -/

namespace Chip8

/-- States from which a next byte can be taken. -/
class ByteSource (σ : Type) where
  /-- The next byte, and the state after it. -/
  next : σ → UInt8 × σ

/-- The first `count` bytes of a source, and the state after them. -/
def ByteSource.take {σ : Type} [ByteSource σ] : Nat → σ → List UInt8 × σ
  | 0, s => ([], s)
  | count + 1, s =>
    let (byte, s') := next s
    let (bytes, s'') := take count s'
    (byte :: bytes, s'')

/-- A list of bytes, handed out over and over. -/
structure Cycle where
  /-- The bytes. -/
  bytes : List UInt8
  /-- Which byte is next. -/
  position : Nat
  deriving DecidableEq

namespace Cycle

/-- The cycle over a list of bytes from its first byte on. There is none over the empty list. -/
def ofBytes (bytes : List UInt8) : Except Fault Cycle :=
  if bytes.isEmpty then .error (.defect .emptyCycle) else .ok ⟨bytes, 0⟩

instance : ByteSource Cycle where
  next c := (c.bytes.getD c.position 0, { c with position := (c.position + 1) % c.bytes.length })

end Cycle

/-- The multiples of a step, modulo 256. -/
structure Stride where
  /-- The difference of two bytes. -/
  step : UInt8
  /-- The byte handed out last, 0 before the first. -/
  last : UInt8
  deriving DecidableEq

instance : ByteSource Stride where
  next s := (s.last + s.step, { s with last := s.last + s.step })

/-- A source of one of two kinds. -/
instance {σ τ : Type} [ByteSource σ] [ByteSource τ] : ByteSource (σ ⊕ τ) where
  next
    | .inl s => let (byte, s') := ByteSource.next s; (byte, .inl s')
    | .inr s => let (byte, s') := ByteSource.next s; (byte, .inr s')

end Chip8
