/-! # Hexadecimal numerals

    Addresses, words and keys are shown in base sixteen, padded with zeros on the left to a fewest
    number of digits and never cut. -/

namespace Chip8.Text

/-- The base-sixteen numeral of `n` in small letters, with at least `width` digits. -/
def hex (width n : Nat) : String :=
  String.ofList ((Nat.toDigits 16 n).leftpad width '0')

/-- The base-sixteen numeral of `n` in capital letters, with at least `width` digits. -/
def hexCapital (width n : Nat) : String :=
  String.ofList (((Nat.toDigits 16 n).map Char.toUpper).leftpad width '0')

end Chip8.Text
