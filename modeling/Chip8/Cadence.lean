/-! # Cadences

    Ticks, steps and frames each come so many times a second. How many are due follows from the time
    since the start alone: the nanoseconds times the rate, divided by the nanoseconds of a second.
    The product is formed in 128 bits and the quotient is kept in 64. -/

namespace Chip8

/-- The rates of the three cadences, per second. -/
structure Rates where
  /-- Steps of the machine. -/
  cpu : UInt32 := 500
  /-- Ticks of the timers. -/
  timer : UInt32 := 60
  /-- Frames on the display. -/
  frame : UInt32 := 60
  deriving DecidableEq, Inhabited

/-- How often each cadence has been served. -/
structure Counts where
  cpu : Nat := 0
  timer : Nat := 0
  frame : Nat := 0
  deriving DecidableEq, Inhabited

namespace Cadence

/-- The nanoseconds of a second. -/
def second : Nat := 1000000000

/-- Nanoseconds times rate, in 128 bits. -/
def product (elapsed : Nat) (hz : UInt32) : Nat :=
  elapsed * hz.toNat % (UInt64.size * UInt64.size)

/-- How many updates are due once `elapsed` nanoseconds have passed. -/
def target (elapsed : Nat) (hz : UInt32) : Nat :=
  product elapsed hz / second % UInt64.size

end Cadence

end Chip8
