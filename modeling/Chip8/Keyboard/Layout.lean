/-! # Keyboard layouts

    The keypad of the machine has four rows of four keys. A layout says which characters on the left
    hand side of a keyboard stand for them. -/

namespace Chip8

/-- The layouts that are known. -/
inductive Layout where
  | qwerty
  | dvorak
  deriving DecidableEq, Inhabited

namespace Layout

/-- The characters of a layout and their keys, row by row:
    `1 2 3 4`, `q w e r`, `a s d f`, `z x c v`, or what a dvorak keyboard has in their places. -/
def table : Layout → List (Char × UInt8)
  | .qwerty =>
    [('1', 0x1), ('2', 0x2), ('3', 0x3), ('4', 0xc),
     ('q', 0x4), ('w', 0x5), ('e', 0x6), ('r', 0xd),
     ('a', 0x7), ('s', 0x8), ('d', 0x9), ('f', 0xe),
     ('z', 0xa), ('x', 0x0), ('c', 0xb), ('v', 0xf)]
  | .dvorak =>
    [('1', 0x1), ('2', 0x2), ('3', 0x3), ('4', 0xc),
     ('\'', 0x4), (',', 0x5), ('.', 0x6), ('p', 0xd),
     ('a', 0x7), ('o', 0x8), ('e', 0x9), ('u', 0xe),
     (';', 0xa), ('q', 0x0), ('j', 0xb), ('k', 0xf)]

/-- The key of a character. Capital letters have none. -/
def key? (l : Layout) (c : Char) : Option UInt8 := l.table.lookup c

/-- The name of a layout on the command line. -/
def name : Layout → String
  | .qwerty => "qwerty"
  | .dvorak => "dvorak"

/-- All layouts, in the order that they are listed in. -/
def all : List Layout := [.qwerty, .dvorak]

/-- The layout of a name. -/
def ofName? (name : String) : Option Layout := all.find? fun l => l.name = name

end Layout

end Chip8
