import Chip8.Screen.Frame

/-! # Control codes

    What is written to a terminal so that it shows a frame. Codes open with an escape and a bracket.
    Colours are set for a tile only where they differ from the tile before it, and the cursor is
    moved only at the start of a row and where a tile is passed over. -/

namespace Chip8

/-- A control code. -/
def Screen.code (body : String) : String := "\x1b[" ++ body

namespace Colour

/-- The code that sets the colour of what is written next. -/
def inkCode : Colour → String
  | .plain => Screen.code "39m"
  | colour => Screen.code ("38;5;" ++ colour.name ++ "m")

/-- The code that sets the colour behind what is written next. -/
def paperCode : Colour → String
  | .plain => Screen.code "49m"
  | colour => Screen.code ("48;5;" ++ colour.name ++ "m")

end Colour

namespace Screen

/-- To the second page, and the cursor away. -/
def openCodes : String := code "?1049h" ++ code "?25l"

/-- Back to the first page, and the cursor on again. -/
def closeCodes : String := code "?25h" ++ code "?1049l"

/-- To a row and a column, both counted from 0. -/
def moveCode (row column : Nat) : String :=
  code (toString (row + 1) ++ ";" ++ toString (column + 1) ++ "H")

/-- A tile, where the tile before it had these colours. -/
def tileCodes (ink paper : Colour) (tile : Tile) : String :=
  (if tile.ink = ink then "" else tile.ink.inkCode) ++
    (if tile.paper = paper then "" else tile.paper.paperCode) ++ String.ofList tile.letters

/-- The tiles of a row from `column` on, and the colours put back. The tile after a wide one is
    passed over. -/
def rowCodes (row column : Nat) (ink paper : Colour) : List Tile → String
  | [] => code "39m" ++ code "49m"
  | tile :: rest =>
    tileCodes ink paper tile ++
      if tile.width ≤ 1 then rowCodes row (column + 1) tile.ink tile.paper rest
      else match rest with
        | [] => code "39m" ++ code "49m"
        | _ :: rest =>
          moveCode row (column + 2) ++ rowCodes row (column + 2) tile.ink tile.paper rest

/-- Rows of tiles from row `row` on. -/
def rowsCodes (row : Nat) : List (List Tile) → String
  | [] => ""
  | tiles :: rest =>
    moveCode row 0 ++ rowCodes row 0 .plain .plain tiles ++ rowsCodes (row + 1) rest

/-- A frame. -/
def frameCodes (title : String) (p : Picture) : String :=
  rowsCodes 0 (Frame.tiles title p)

end Screen

end Chip8
