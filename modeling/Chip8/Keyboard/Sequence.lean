import Chip8.Keyboard.Press
import Chip8.Text.Numeral
import Chip8.Text.Utf8

/-! # What a terminal sends

    A terminal sends bytes. A character comes in UTF-8, a control character as a byte of its own,
    and an escape before either stands for the alt key. Keys without a character, and whatever else
    there is to report, come as sequences: an escape, an `O` or a `[`, and then letters and numbers.

    Bytes are judged as they come. Those of an event that is not complete yet are unfinished, and
    those that no event begins with are nonsense. -/

namespace Chip8

/-- What some bytes mean. -/
inductive Meaning where
  /-- More bytes have to come. -/
  | unfinished
  /-- No event begins like this. -/
  | nonsense
  | event (event : TerminalEvent)
  deriving DecidableEq

namespace Meaning

/-- A key by itself. -/
def key (code : KeyCode) : Meaning := .event (.key { code })

/-- A key, where there is one. -/
def ofKey? : Option KeyCode → Meaning
  | some code => key code
  | none => .nonsense

/-- The same with the alt key. -/
def withAlt : Meaning → Meaning
  | .event e => .event e.withAlt
  | m => m

/-! ### Characters -/

/-- The press that a control character is: a key of its own, or a character with the control key. -/
def control? (b : UInt8) : Option KeyPress :=
  if b = 0x0d then some { code := .enter }
  else if b = 0x09 then some { code := .tab }
  else if b = 0x7f then some { code := .backspace }
  else if b = 0x00 then some { code := .char ' ', control := true }
  else if b ≤ 0x1a then
    some { code := .char (Char.ofNat (b.toNat - 1 + 'a'.toNat)), control := true }
  else if 0x1c ≤ b ∧ b ≤ 0x1f then
    some { code := .char (Char.ofNat (b.toNat - 0x1c + '4'.toNat)), control := true }
  else none

/-- The number of bytes that a first byte announces, itself included. Nothing begins with a byte
    that announces none. -/
def announced (first : UInt8) : Nat :=
  if first < 0x80 then 1
  else if first < 0xc0 then 0
  else if first < 0xe0 then 2
  else if first < 0xf0 then 3
  else if first < 0xf8 then 4
  else 0

/-- What the bytes of a character mean. -/
def ofCharacter (first : UInt8) (following : List UInt8) : Meaning :=
  match Text.Utf8.chars? (first :: following) with
  | some (c :: _) => key (.char c)
  | _ =>
    if following.all Text.Utf8.isFollower ∧ following.length + 1 < announced first then .unfinished
    else .nonsense

/-- What bytes without an escape in front mean. -/
def ofPlain (first : UInt8) (following : List UInt8) : Meaning :=
  match control? first with
  | some press => .event (.key press)
  | none => ofCharacter first following

/-! ### Sequences -/

/-- The keys of the letters after an escape and an `O`. -/
def functionLetters : List (Char × KeyCode) :=
  [('P', .function 1), ('Q', .function 2), ('R', .function 3), ('S', .function 4)]

/-- The keys of the letters after two brackets. -/
def doubleBracketLetters : List (Char × KeyCode) :=
  [('A', .function 1), ('B', .function 2), ('C', .function 3), ('D', .function 4),
   ('E', .function 5)]

/-- The keys of the letters after a bracket or after numbers. -/
def cursorLetters : List (Char × KeyCode) :=
  [('A', .up), ('B', .down), ('C', .right), ('D', .left), ('H', .home), ('F', .last)]

/-- The key of a number before a tilde. Function keys have gaps in their numbers. -/
def ofNumber? (n : Nat) : Option KeyCode :=
  if n = 1 ∨ n = 7 then some .home
  else if n = 2 then some .insert
  else if n = 3 then some .delete
  else if n = 4 ∨ n = 8 then some .last
  else if n = 5 then some .pageUp
  else if n = 6 then some .pageDown
  else if 11 ≤ n ∧ n ≤ 15 then some (.function (n - 10))
  else if 17 ≤ n ∧ n ≤ 21 then some (.function (n - 11))
  else if 23 ≤ n ∧ n ≤ 26 then some (.function (n - 12))
  else if 28 ≤ n ∧ n ≤ 29 then some (.function (n - 15))
  else if 31 ≤ n ∧ n ≤ 34 then some (.function (n - 17))
  else none

/-- What stands before the first semicolon, and what stands after it. -/
def field (cs : List Char) : List Char × List Char :=
  (cs.takeWhile (· ≠ ';'), (cs.dropWhile (· ≠ ';')).tail)

/-- What a tilde after the text `cs` means. Only the number in front counts. -/
def ofTilde (cs : List Char) : Meaning :=
  ofKey? ((Text.unsigned? 8 (field cs).1).bind ofNumber?)

/-- Do two numbers stand in front? -/
def isPosition (cs : List Char) : Bool :=
  let (row, rest) := field cs
  (Text.unsigned? 16 row).isSome && (Text.unsigned? 16 (field rest).1).isSome

/-- Is the number a code for what a mouse does? Its two lowest binary digits and the two highest of
    eight count the buttons and the turns of the wheel, of which there are six; those between them
    say how. -/
def isMouseCode (code : Nat) : Bool := code % 4 + code / 64 * 4 ≤ 5

/-- The same for a code that comes with 32 added to it, so that it can be printed. -/
def isShiftedMouseCode (code : Nat) : Bool := 32 ≤ code && isMouseCode (code - 32)

/-- Do a number that is a code and the two numbers of a place stand in front? -/
def isMouseReport (isCode : Nat → Bool) (cs : List Char) : Bool :=
  let (code, place) := field cs
  (Text.unsigned? 8 code).any isCode && isPosition place

/-- What a report of the mouse means, if it is none unless `complete`. -/
def ofMouse (complete : Bool) : Meaning := if complete then .event .other else .nonsense

/-- What a letter at the end of numbers means. -/
def ofNumbers (numbers : List UInt8) (letter : Char) : Meaning :=
  match letter, Text.Utf8.chars? numbers with
  | 'M', some cs => ofMouse (isMouseReport isShiftedMouseCode cs)
  | '~', some cs => ofTilde cs
  | 'R', some cs => if isPosition cs then .event .position else .nonsense
  | 'M', none | '~', none | 'R', none => .nonsense
  | _, _ => ofKey? ((cursorLetters ++ functionLetters).lookup letter)

/-- Does a byte end a sequence that began with a digit? -/
def isFinal (b : UInt8) : Bool := 0x40 ≤ b && b ≤ 0x7e

/-- The character of a byte. -/
def letter (b : UInt8) : Char := Char.ofNat b.toNat

/-- What the bytes after an escape and a bracket mean. Reports of the mouse end after three more
    bytes, or with an `M` of either case. -/
def ofBracket : List UInt8 → Meaning
  | [] => .unfinished
  | first :: rest =>
    if letter first = '[' then
      match rest with
      | [] => .unfinished
      | second :: _ => ofKey? (doubleBracketLetters.lookup (letter second))
    else if letter first = 'M' then
      match rest with
      | code :: _ :: _ :: _ => ofMouse (isShiftedMouseCode code.toNat)
      | _ => .unfinished
    else if letter first = '<' then
      match rest.getLast?.map letter with
      | some 'M' | some 'm' =>
        ofMouse ((Text.Utf8.chars? rest.dropLast).any (isMouseReport isMouseCode))
      | _ => .unfinished
    else if (letter first).isDigit then
      match rest.getLast? with
      | some last =>
        if isFinal last then ofNumbers (first :: rest.dropLast) (letter last) else .unfinished
      | none => .unfinished
    else if letter first = 'Z' then key .backTab
    else ofKey? (cursorLetters.lookup (letter first))

/-- What the bytes after an escape and an `O` mean. -/
def ofO : List UInt8 → Meaning
  | [] => .unfinished
  | first :: _ => ofKey? (functionLetters.lookup (letter first))

/-! ### All bytes -/

/-- What bytes mean, if `more` have arrived together with them. An escape that nothing has arrived
    with is the escape key, and so are two of them. -/
def ofBytes (more : Bool) : List UInt8 → Meaning
  | [] => .unfinished
  | first :: rest =>
    if letter first = '\x1b' then
      match rest with
      | [] => if more then .unfinished else key .escape
      | second :: later =>
        if letter second = '\x1b' then key .escape
        else if letter second = 'O' then ofO later
        else if letter second = '[' then ofBracket later
        else (ofPlain second later).withAlt
    else ofPlain first rest

end Meaning

end Chip8
