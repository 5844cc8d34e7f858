import Chip8.Keyboard.Sequence

/-! # The inbox

    What a terminal has sent waits in an inbox until it is collected. Bytes are read into events one
    at a time; those of an unfinished event are held back until the rest of it comes, and nonsense
    is thrown away.

    Reading goes on only until there are events, and starts again only when something new has come:
    a terminal says once that there is something to read, and not again for what was left. Nobody
    waits for the place of the cursor, so a report of it interrupts: the events after it are left
    for the next time. -/

namespace Chip8

/-- What a terminal has sent. -/
structure Inbox where
  /-- Bytes that have not been read. -/
  unread : List UInt8 := []
  /-- Has something come since bytes were last read? -/
  news : Bool := false
  /-- Bytes of an unfinished event. -/
  held : List UInt8 := []
  /-- Events that have been read and not been collected. -/
  events : List TerminalEvent := []
  deriving DecidableEq

namespace Inbox

/-- The most bytes that are read at once. -/
def portion : Nat := 1204

/-- Read bytes after those that are held back: the events, and the bytes that are held back now. If
    `more`, there may be bytes after the last one. -/
def decode (more : Bool) (held : List UInt8) : List UInt8 → List TerminalEvent × List UInt8
  | [] => ([], held)
  | byte :: rest =>
    match Meaning.ofBytes (more || !rest.isEmpty) (held ++ [byte]) with
    | .unfinished => decode more (held ++ [byte]) rest
    | .nonsense => decode more [] rest
    | .event event =>
      let (events, held) := decode more [] rest
      (event :: events, held)

/-- Read one portion after another until there are events. A full one may have bytes after it. -/
def read (box : Inbox) : Inbox :=
  if box.unread = [] then box
  else
    let bytes := box.unread.take portion
    let (events, held) := decode (bytes.length = portion) box.held bytes
    let box' : Inbox := { box with unread := box.unread.drop portion, held, events }
    if events = [] then read box' else box'
termination_by box.unread.length
decreasing_by
  have : box.unread.length ≠ 0 := fun h => by simp_all
  simp only [List.length_drop, portion]
  omega

/-- The events before the first report of a place, and those after it if there is one. -/
def interrupt : List TerminalEvent → List TerminalEvent × Option (List TerminalEvent)
  | [] => ([], none)
  | .position :: rest => ([], some rest)
  | event :: rest =>
    let (before, after) := interrupt rest
    (event :: before, after)

/-- More bytes arrive. -/
def receive (bytes : List UInt8) (box : Inbox) : Inbox :=
  { box with unread := box.unread ++ bytes, news := box.news || !bytes.isEmpty }

/-- Collect what is there, up to an interruption. News are read after the events that were left from
    the time before. -/
def collect (box : Inbox) : List TerminalEvent × Inbox :=
  match interrupt box.events with
  | (before, some after) => (before, { box with events := after })
  | (before, none) =>
    if box.news then
      let box := { box with news := false, events := [] }.read
      let (later, after) := interrupt box.events
      (before ++ later, { box with events := after.getD [] })
    else (before, { box with events := [] })

end Inbox

end Chip8
