import Chip8.Fault
import Chip8.Picture.Basic

/-! # Sprites

    A sprite is a stack of rows eight pixels wide, one byte each. Placed on the screen it loses the
    columns that stick out on the right; they do not come back on the left. Rows that stick out at
    the bottom are refused. Stamping a sprite flips the pixels that it covers. -/

namespace Chip8

/-- A sprite row on a line of 64 pixels, its leftmost pixel in column `x`. -/
def Sprite.line (row x : UInt8) : UInt64 :=
  if x ≤ 56 then row.toUInt64 <<< (56 - x).toUInt64
  else if x - 56 < 64 then row.toUInt64 >>> (x - 56).toUInt64
  else 0

/-- Does a sprite with its top left pixel in column `x` and row `y` flip the pixel in column `c` and
    row `r`? Its pixels run from the highest bit of a row to the lowest. -/
def Sprite.covers (sprite : List UInt8) (x y c r : Nat) : Bool :=
  if y ≤ r ∧ x ≤ c ∧ c < x + 8 then
    match sprite[r - y]? with
    | some row => row.toNat.testBit (7 - (c - x))
    | none => false
  else false

namespace Picture

/-- The sprite alone on a dark screen, its top left pixel in column `x` and row `y`. -/
def ofSprite (sprite : List UInt8) (x : UInt8) (y : Nat) : Picture :=
  ⟨Vector.ofFn fun r =>
    if y ≤ r then
      match sprite[r.val - y]? with
      | some row => Sprite.line row x
      | none => 0
    else 0⟩

/-- The picture with a sprite stamped on it, and whether a lit pixel went dark. The rows
    `y, y + 1, …` that the sprite takes must be rows of the screen. -/
def stamp (p : Picture) (sprite : List UInt8) (x : UInt8) (y : Nat) :
    Except Fault (Picture × Bool) :=
  if y + sprite.length > height then .error (.defect (.pastEnd (y + sprite.length) height))
  else
    let stamped := p.xor (ofSprite sprite x y)
    .ok (stamped, p.loses stamped)

end Picture

end Chip8
