import Chip8.Options.Basic
import Chip8.Text.Utf8

/-! # Paths

    A path is a list of bytes; slashes part its components. Empty components and single dots mean
    nothing. The name of a file is its last component, unless that is the step to the parent. -/

namespace Chip8

namespace Path

/-- The byte that parts components. -/
def slash : UInt8 := 0x2f

/-- The components of a path, empty ones included. There is always at least one. -/
def split : List UInt8 → List (List UInt8)
  | [] => [[]]
  | b :: rest =>
    if b = slash then [] :: split rest
    else match split rest with
      | first :: others => (b :: first) :: others
      | [] => [[b]]

/-- A single dot: the directory itself. -/
def here : List UInt8 := [0x2e]

/-- Two dots: the parent. -/
def parent : List UInt8 := [0x2e, 0x2e]

/-- The components of a path that mean something. -/
def components (path : List UInt8) : List (List UInt8) :=
  (split path).filter fun c => c ≠ [] ∧ c ≠ here

/-- The name of the file at a path, if it names one. -/
def fileName? (path : List UInt8) : Option (List UInt8) :=
  match (components path).getLast? with
  | some name => if name = parent then none else some name
  | none => none

end Path

/-- The name of the program, for the title: the file name, or the whole path if there is none. -/
def Options.romName (o : Options) : String :=
  Text.Utf8.lossy ((Path.fileName? o.rom).getD o.rom)

end Chip8
