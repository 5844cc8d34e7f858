/-! # UTF-8

    Bytes are read as characters wherever they spell some. What spells none is cut into pieces: a
    first byte together with as many of its following bytes as could still have become a character.
    Each piece is one mistake. -/

namespace Chip8.Text

/-- A character, or the bytes of one mistake. -/
inductive Piece where
  | char (c : Char)
  | broken (bytes : List UInt8)
  deriving DecidableEq

namespace Utf8

/-- The number of bytes that follow a first byte, and the range that the second byte has to lie in.
    Its ends shut out overlong spellings, surrogates and numbers past the last code point. -/
def lead (first : UInt8) : Option (Nat × UInt8 × UInt8) :=
  if first < 0xc2 then none
  else if first < 0xe0 then some (1, 0x80, 0xbf)
  else if first < 0xf0 then
    some (2, if first = 0xe0 then 0xa0 else 0x80, if first = 0xed then 0x9f else 0xbf)
  else if first < 0xf5 then
    some (3, if first = 0xf0 then 0x90 else 0x80, if first = 0xf4 then 0x8f else 0xbf)
  else none

/-- Is the byte one that follows a first byte? -/
def isFollower (b : UInt8) : Bool := 0x80 ≤ b && b ≤ 0xbf

/-- How many of the bytes after `first` could belong to it: at most `count`, the first of them in
    the given range, the others followers. -/
def followers (count : Nat) (low high : UInt8) : List UInt8 → List UInt8
  | [] => []
  | second :: rest =>
    if low ≤ second && second ≤ high then
      second :: (rest.take (count - 1)).takeWhile isFollower
    else []

/-- The code point that a first byte and its followers spell. -/
def codePoint (first : UInt8) (following : List UInt8) : Nat :=
  let bits := match following.length with
    | 1 => first.toNat % 0x20
    | 2 => first.toNat % 0x10
    | _ => first.toNat % 0x08
  following.foldl (fun acc b => acc * 64 + b.toNat % 64) bits

/-- The piece that starts with `first`, and the number of bytes after `first` that it takes. -/
def piece (first : UInt8) (rest : List UInt8) : Piece × Nat :=
  if first < 0x80 then (.char (Char.ofNat first.toNat), 0)
  else match lead first with
    | none => (.broken [first], 0)
    | some (count, low, high) =>
      let following := followers count low high rest
      if following.length = count then
        (.char (Char.ofNat (codePoint first following)), count)
      else (.broken (first :: following), following.length)

/-- The pieces of a list of bytes. -/
def pieces : List UInt8 → List Piece
  | [] => []
  | first :: rest =>
    let (p, taken) := piece first rest
    p :: pieces (rest.drop taken)
termination_by bytes => bytes.length
decreasing_by simp only [List.length_drop, List.length_cons]; omega

/-- The character that stands for a mistake. -/
def replacement : Char := '\ufffd'

/-- The text of a list of bytes, each mistake replaced by one character. -/
def lossy (bytes : List UInt8) : String :=
  String.ofList ((pieces bytes).map fun
    | .char c => c
    | .broken _ => replacement)

/-- The characters of a list of bytes without a mistake. -/
def chars? (bytes : List UInt8) : Option (List Char) :=
  (pieces bytes).mapM fun
    | .char c => some c
    | .broken _ => none

end Utf8

end Chip8.Text
