/-! # Decimal numerals

    A numeral is one or more of the ten digits, with or without a plus in front. Nothing else is
    read: no minus, no blank, no separator, no digit of another script. -/

namespace Chip8.Text

/-- The value of a digit. -/
def digit? (c : Char) : Option Nat :=
  if '0' ≤ c ∧ c ≤ '9' then some (c.toNat - '0'.toNat) else none

/-- The value of one or more digits. -/
def natural? (cs : List Char) : Option Nat :=
  if cs.isEmpty then none
  else cs.foldl (fun acc c => do return (← acc) * 10 + (← digit? c)) (some 0)

/-- The value of digits with a plus or without, if it can be written with `bits` binary digits. -/
def unsigned? (bits : Nat) (cs : List Char) : Option Nat :=
  (natural? (if cs.head? = some '+' then cs.tail else cs)).filter (· < 1 <<< bits)

end Chip8.Text
