import Chip8.Picture.Planes
import Chip8.Text.Cluster
import Chip8.Text.Width

/-! # Frames

    A frame is a box with a title in its top border and one tile for every pixel. The box stands on
    black; a pixel is a half block in white or black on the terminal's own background.

    A tile holds what a reader takes for one character, which may be written with several and may be
    wider than one tile. -/

namespace Chip8

/-- A colour of a tile or a cell. -/
inductive Colour where
  /-- Whatever the terminal has. -/
  | plain
  | black
  | white
  deriving DecidableEq, Inhabited

/-- The name of a colour: its index among 256, or a dash. -/
def Colour.name : Colour → String
  | .plain => "-"
  | .black => "0"
  | .white => "15"

/-- One tile of a frame. -/
structure Tile where
  letters : List Char := [' ']
  ink : Colour := .plain
  paper : Colour := .plain
  deriving DecidableEq, Inhabited

/-- The number of tiles that a tile reaches over, itself included. -/
def Tile.width (tile : Tile) : Nat := Text.totalWidth tile.letters

namespace Frame

/-- A tile of the border, or of the title in it. -/
def borderTile (letters : List Char) : Tile := ⟨letters, .plain, .black⟩

/-- A tile inside the box. -/
def pixelTile (ink : Colour) : Tile := ⟨['▄'], ink, .plain⟩

/-- The size of the canvas inside the box. -/
def canvas : Resolution := .screen

/-- The canvas, row after row, with the points of a plane painted on it. -/
def paint (ink : Colour) (points : List (Int × Int)) (tiles : Array Tile) : Array Tile :=
  points.foldl
    (fun tiles (x, y) => tiles.setIfInBounds ((-y).toNat * canvas.width + x.toNat) (pixelTile ink))
    tiles

/-- The canvas of a picture: the dark plane first, then the lit one. -/
def pixels (p : Picture) : Array Tile :=
  paint .white (canvas.plane p true)
    (paint .black (canvas.plane p false) (Array.replicate canvas.area {}))

/-- The tiles of clusters that are written on the border in `room` tiles. A cluster without a width
    is left out, and the tiles that a cluster reaches over are blank. What comes after the first
    cluster that does not fit is cut. -/
def lettering (room : Nat) : List (List Char) → List Tile
  | [] => []
  | cluster :: rest =>
    let width := Text.totalWidth cluster
    if width = 0 then lettering room rest
    else if room < width then []
    else
      borderTile cluster :: (List.replicate (width - 1) {} ++ lettering (room - width) rest)

/-- The top border, with the title from the corner on. -/
def top (title : String) : List Tile :=
  let text := lettering canvas.width (Text.clusters ("CHIP-8: " ++ title).toList)
  let line := List.replicate (canvas.width - text.length) (borderTile ['─'])
  borderTile ['┌'] :: (text ++ line ++ [borderTile ['┐']])

/-- The bottom border. -/
def bottom : List Tile :=
  (('└' :: List.replicate canvas.width '─') ++ ['┘']).map fun glyph => borderTile [glyph]

/-- Row `y` of the canvas between the side borders. -/
def row (pixels : Array Tile) (y : Nat) : List Tile :=
  borderTile ['│'] ::
    ((pixels.extract (y * canvas.width) ((y + 1) * canvas.width)).toList ++ [borderTile ['│']])

/-- The tiles of a frame, row by row. -/
def tiles (title : String) (p : Picture) : List (List Tile) :=
  let pixels := pixels p
  top title :: ((List.range canvas.height).map (row pixels) ++ [bottom])

end Frame

end Chip8
