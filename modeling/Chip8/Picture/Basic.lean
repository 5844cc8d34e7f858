/-! # Pictures

    A picture has 64 columns and 32 rows of pixels that are lit or dark. A row is a word of 64 bits
    whose highest bit is the leftmost column. Pictures are combined pixel by pixel. -/

namespace Chip8

/-- The number of columns. -/
def Picture.width : Nat := 64

/-- The number of rows. -/
def Picture.height : Nat := 32

/-- 32 rows of 64 pixels. -/
structure Picture where
  /-- The rows from the top down. -/
  rows : Vector UInt64 32
  deriving DecidableEq

namespace Picture

/-- The picture without a lit pixel. -/
def blank : Picture := ⟨Vector.replicate 32 0⟩

instance : Inhabited Picture := ⟨blank⟩

/-- Is the pixel in column `x` and row `y` lit? Outside the picture nothing is. -/
def lit (p : Picture) (x y : Nat) : Bool :=
  if h : x < 64 ∧ y < 32 then p.rows[y].toNat.testBit (63 - x) else false

/-- The pixels that are lit in exactly one of two pictures. -/
def xor (p q : Picture) : Picture :=
  ⟨Vector.ofFn fun r => p.rows[r] ^^^ q.rows[r]⟩

@[simp] theorem lit_blank (x y : Nat) : blank.lit x y = false := by
  simp [lit, blank]

@[simp] theorem lit_xor (p q : Picture) (x y : Nat) :
    (p.xor q).lit x y = (p.lit x y ^^ q.lit x y) := by
  unfold lit
  split
  · simp [xor]
  · rfl

/-- Is some pixel lit in the first picture and dark in the second? -/
def loses (p q : Picture) : Bool :=
  (List.finRange 32).any fun r => p.rows[r] &&& ~~~ q.rows[r] ≠ 0

/-- The rows that are not blank, with their numbers. -/
def litRows (p : Picture) : List (Nat × UInt64) :=
  (p.rows.toList.zipIdx.map fun (line, r) => (r, line)).filter fun (_, line) => line ≠ 0

/-- The picture with the named rows, the rest blank. Of two rows with one number the later counts,
    and a number past the last row is passed over. -/
def ofRows (rows : List (Nat × UInt64)) : Picture :=
  ⟨rows.foldl (fun v (r, line) => v.setIfInBounds r line) (Vector.replicate 32 0)⟩

end Picture

end Chip8
