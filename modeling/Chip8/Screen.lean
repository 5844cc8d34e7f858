import Chip8.Screen.Frame

/-! # The terminal screen

    Frames are drawn in the top left corner of a terminal. The screen is switched to its second
    page, without a cursor, for as long as frames are shown.

    A terminal gives every character a cell, one after the other from where its cursor stands. So a
    tile that is written with more characters than it is wide pushes the tiles after it to the
    right, until the cursor is moved. It is moved where a tile is passed over. -/

namespace Chip8

/-- One cell of a terminal. -/
structure Cell where
  glyph : Char := ' '
  ink : Colour := .plain
  paper : Colour := .plain
  deriving DecidableEq, Inhabited

/-- The cells that a terminal gives to a tile. -/
def Tile.cells (tile : Tile) : List Cell := tile.letters.map (⟨·, tile.ink, tile.paper⟩)

namespace Screen

/-- A line with cells written over it from column `place` on. -/
def overwrite (line : List Cell) (place : Nat) (cells : List Cell) : List Cell :=
  line.take place ++ List.replicate (place - line.length) default ++ cells ++
    line.drop (place + cells.length)

/-- A line after the tiles from column `column` on have been written, the cursor standing at
    `cursor`. The tile after a wide one is passed over. -/
def write (line : List Cell) (column cursor : Nat) : List Tile → List Cell
  | [] => line
  | tile :: rest =>
    let line := overwrite line cursor tile.cells
    if tile.width ≤ 1 then write line (column + 1) (cursor + tile.letters.length) rest
    else match rest with
      | [] => line
      | _ :: rest => write line (column + 2) (column + 2) rest

/-- What a terminal of so many columns shows when a row of tiles has been written. -/
def line (columns : Nat) (tiles : List Tile) : List Cell := (write [] 0 0 tiles).take columns

/-- Equal neighbours as one cell and their number. -/
def runs : List Cell → List (Cell × Nat)
  | [] => []
  | cell :: rest =>
    match runs rest with
    | (next, count) :: later =>
      if cell = next then (next, count + 1) :: later else (cell, 1) :: (next, count) :: later
    | [] => [(cell, 1)]

end Screen

/-- What a terminal shows. -/
structure Screen where
  /-- Is the cursor to be seen? -/
  cursor : Bool := true
  /-- Is the second page up? -/
  alternate : Bool := false
  /-- The cells that are not blank, row by row. -/
  rows : List (List Cell) := []
  deriving DecidableEq, Inhabited

namespace Screen

/-- A screen of so many columns with a frame on it. -/
def showing (columns : Nat) (title : String) (p : Picture) : Screen :=
  ⟨false, true, (Frame.tiles title p).map (line columns)⟩

/-- The screen after the last frame: the first page again, with its cursor. -/
def closed : Screen := {}

end Screen

end Chip8
