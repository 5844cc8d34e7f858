/-! # Decimal digits of a byte -/

namespace Chip8

/-- The hundreds, tens and ones of a byte. -/
structure Digits where
  hundreds : UInt8
  tens : UInt8
  ones : UInt8
  deriving DecidableEq

/-- The three decimal digits of a byte. -/
def Digits.ofByte (n : UInt8) : Digits :=
  ⟨n / 100, n / 10 % 10, n % 10⟩

/-- The digits in writing order. -/
def Digits.toList (d : Digits) : List UInt8 :=
  [d.hundreds, d.tens, d.ones]

end Chip8
