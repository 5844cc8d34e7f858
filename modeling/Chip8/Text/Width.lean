import Chip8.Text.Property.Emoji
import Chip8.Text.Property.Invisible
import Chip8.Text.Property.Joining
import Chip8.Text.Property.Syllable
import Chip8.Text.Property.Wide

/-! # Width

    A terminal shows a text in cells of one size. A character takes one of them, or two if it is
    wide, or none if it is drawn together with another or not drawn at all. Some characters change
    their width in company: pictures in colour take two cells, whatever they are put together from,
    and a consonant that is written below another takes none.

    Terminals go by the characters of Unicode 15.1. -/

namespace Chip8.Text

/-! ### Characters -/

/-- Characters that join others, but did not do so, or did not exist, in Unicode 15.1. -/
def recent : List CodeRange :=
  [ (0x897, 0x897), (0x1715, 0x1715), (0x1734, 0x1734), (0x1acf, 0x1add), (0x1ae0, 0x1aeb),
    (0x1b44, 0x1b44), (0x1baa, 0x1baa), (0x1bf2, 0x1bf3), (0xa953, 0xa953), (0xa9c0, 0xa9c0),
    (0x10d69, 0x10d6d), (0x10efa, 0x10efc), (0x111c0, 0x111c0), (0x11235, 0x11235),
    (0x1134d, 0x1134d), (0x113b8, 0x113b8), (0x113bb, 0x113c0), (0x113c2, 0x113c2),
    (0x113c5, 0x113c5), (0x113c7, 0x113c9), (0x113ce, 0x113d2), (0x113e1, 0x113e2),
    (0x116b6, 0x116b6), (0x1193d, 0x1193d), (0x11b60, 0x11b60), (0x11b62, 0x11b64),
    (0x11b66, 0x11b66), (0x11f41, 0x11f41), (0x11f5a, 0x11f5a), (0x1611e, 0x16129),
    (0x1612d, 0x1612f), (0x16d63, 0x16d63), (0x16d67, 0x16d6a), (0x16ff0, 0x16ff1),
    (0x1d166, 0x1d166), (0x1d16d, 0x1d16d), (0x1e5ee, 0x1e5ef), (0x1e6e3, 0x1e6e3),
    (0x1e6e6, 0x1e6e6), (0x1e6ee, 0x1e6ef), (0x1e6f5, 0x1e6f5)]

/-- A caret, and two signs that joined others in Unicode 15.1. -/
def formerlyJoining : List CodeRange :=
  [ (0xa8fa, 0xa8fa), (0x1171e, 0x1171e), (0x11a3a, 0x11a3a)]

/-- Signs that enclose a number and begin on its left. -/
def enclosing : List CodeRange :=
  [ (0x600, 0x604), (0x6dd, 0x6dd), (0x110bd, 0x110bd), (0x110cd, 0x110cd)]

/-- Is the character drawn with another one, or not at all? -/
def isWidthless (c : Char) : Bool :=
  inRanges formerlyJoining c ||
    ((inRanges joining c || inRanges halfwidthVoicing c || inRanges ignorable c ||
        inRanges vowels c || inRanges finals c ||
        (inRanges leadingSigns c && !inRanges enclosing c)) &&
      !inRanges recent c)

/-- The number of cells of a character by itself. A control takes one, and a line feed none. The
    filler that begins a syllable of Hangul holds a place, and so do three signs that are written as
    letters. -/
def width (c : Char) : Nat :=
  if c = '\n' then 0
  else if c ≤ '\xa0' then 1
  else if c = '\u2d7f' then 1
  else if c = '\u115f' ∨ c = '\u17a4' then 2
  else if c = '\u17d8' then 3
  else if isWidthless c then 0
  else if inRanges wide c then 2
  else 1

/-! ### Company -/

/-- The consonants of Khmer that take no cell when they are written below another. -/
def subscripts : List CodeRange :=
  [ (0x1780, 0x1782), (0x1784, 0x1787), (0x1789, 0x178c), (0x178e, 0x1793), (0x1795, 0x1798),
    (0x179b, 0x179d), (0x17a0, 0x17a0), (0x17a2, 0x17a2), (0x17a7, 0x17a7), (0x17ab, 0x17ac),
    (0x17af, 0x17af)]

/-- Marks that can stand between a consonant and the sign that puts it below another. -/
def transparent : List CodeRange :=
  [ (0x34f, 0x34f), (0x17b4, 0x17b5), (0x180b, 0x180d), (0x180f, 0x180f), (0x200d, 0x200d),
    (0xfe00, 0xfe0f), (0xe0100, 0xe01ef)]

/-- What stands to the right of a character, as far as it matters to it. -/
inductive Company where
  | none
  | lineFeed
  /-- A selector that asks for colour. -/
  | colourSelector
  /-- A selector that asks for text. -/
  | textSelector
  /-- A picture that has its width already. -/
  | picture
  | tone
  /-- A joiner, and then a picture that has its width. -/
  | joiner
  /-- A selector that asks for colour, a joiner, and then a picture that has its width. -/
  | selectorJoiner
  /-- The frame of a key, a joiner, and then a picture that has its width. -/
  | keycap
  /-- A selector that asks for colour, the frame of a key, a joiner, and then a picture that has its
      width. -/
  | selectorKeycap
  /-- The second letter of a flag, a joiner, and then a picture that has its width. -/
  | flagLetter
  /-- A consonant that can be written below another. -/
  | subscript
  /-- The end of a flag's name, before a joiner and a picture: so many letters of it. -/
  | nameLetters (count : Nat)
  /-- The same, with so many digits in front. -/
  | nameDigits (count : Nat)
  deriving DecidableEq

namespace Company

/-- A character as company of the one before it. -/
def of (c : Char) : Company :=
  if c = '\n' then .lineFeed
  else if c = '\ufe0f' then .colourSelector
  else if c = '\ufe0e' then .textSelector
  else if inRanges coloured c then .picture
  else if inRanges tones c then .tone
  else if inRanges subscripts c then .subscript
  else .none

/-- Company that a selector without effect has left. -/
def withoutSelector : Company → Company
  | .colourSelector | .textSelector | .selectorJoiner | .selectorKeycap => .none
  | company => company

end Company

/-- Does a selector that asks for colour have an effect on the character? -/
def takesColour (c : Char) : Bool := inRanges plainEmoji c || inRanges twoStyled c

/-- Does a selector that asks for text have an effect on the character? It has none on the
    ideographs in squares. -/
def takesText (c : Char) : Bool :=
  inRanges twoStyled c && !CodeRange.covers (0x1f200, 0x1f2ff) c

/-- A letter of a flag's name. -/
def isNameLetter (c : Char) : Bool := CodeRange.covers (0xe0061, 0xe007a) c

/-- A digit of a flag's name. -/
def isNameDigit (c : Char) : Bool := CodeRange.covers (0xe0030, 0xe0039) c

/-- The width of a text with `c` in front, and the company that the two are, if what is after `c`
    has `total` cells and is the company `right`. -/
def widthBefore (c : Char) (total : Nat) (right : Company) : Nat × Company :=
  let alone := (total + width c, Company.of c)
  if right = .colourSelector ∧ takesColour c then (total + 2, .picture)
  else if (right = .selectorJoiner ∨ right = .selectorKeycap) ∧ takesColour c then
    (total, .picture)
  else if right = .textSelector ∧ takesText c then (total + 1, .none)
  else match right.withoutSelector with
    | .lineFeed => if c = '\r' then (total, .none) else alone
    | .subscript =>
      -- the sign takes back the cell that the consonant was given
      if c = '\u17d2' then (total - 1, .none)
      else if inRanges transparent c then (total, .subscript)
      else alone
    | .tone =>
      if inRanges toneBases c then (total, .picture)
      else if c = '\u200d' then (total, .joiner)
      else alone
    | .picture => if c = '\u200d' then (total, .joiner) else alone
    | .joiner =>
      if c = '\ufe0f' then (total, .selectorJoiner)
      else if c = '\u20e3' then (total, .keycap)
      else if inRanges regionals c then (total + 1, .flagLetter)
      else if inRanges tones c then (total, .tone)
      else if inRanges coloured c then (total, .picture)
      else if c = Char.ofNat 0xe007f then (total, .nameLetters 0)
      else alone
    | .keycap => if c = '\ufe0f' then (total, .selectorKeycap) else alone
    -- a flag has the width of the picture that it is joined to
    | .flagLetter => if inRanges regionals c then (total - 1, .none) else alone
    | .nameLetters n =>
      if isNameLetter c ∧ n < 6 then (total, .nameLetters (n + 1))
      else if isNameDigit c ∧ n ≤ 4 then (total, .nameDigits 1)
      else if c = '🏴' ∧ 3 ≤ n then (total, .picture)
      else alone
    | .nameDigits n =>
      if isNameDigit c ∧ n < 3 then (total, .nameDigits (n + 1))
      else if c = '🏴' ∧ n = 3 then (total, .picture)
      else alone
    | _ => alone

/-- The number of cells of a text, and what it is as company. -/
def measure : List Char → Nat × Company
  | [] => (0, .none)
  | c :: rest =>
    let (total, right) := measure rest
    widthBefore c total right

/-- The number of cells of a text. -/
def totalWidth (cs : List Char) : Nat := (measure cs).1

end Chip8.Text
