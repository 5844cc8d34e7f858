import Chip8.Picture.Basic

/-! # Planes

    A canvas of any size shows the top left part of a picture as two planes of points, the lit ones
    and the dark ones. Columns grow to the right and rows grow downwards, so the row counts as a
    negative height. -/

namespace Chip8

/-- The size of a canvas in points. -/
structure Resolution where
  width : Nat
  height : Nat
  deriving DecidableEq

namespace Resolution

/-- A canvas of the size of the screen. -/
def screen : Resolution := ⟨Picture.width, Picture.height⟩

/-- The number of points. -/
def area (r : Resolution) : Nat := r.width * r.height

/-- The points in reading order, as columns and rows. -/
def points (r : Resolution) : List (Nat × Nat) :=
  (List.range r.area).map fun i => (i % r.width, i / r.width)

/-- The coordinates of the points that are lit, or of those that are dark. -/
def plane (r : Resolution) (p : Picture) (lit : Bool) : List (Int × Int) :=
  (r.points.filter fun (x, y) => p.lit x y == lit).map fun (x, y) => ((x : Int), -(y : Int))

end Resolution

end Chip8
