import Chip8.Launch
import Chip8.Options.StandIn
import Chip8.Screen.Codes

/-! # The program

    A launch in a real terminal: the program comes from a file, the time from a clock, the keys from
    the standard input, and frames, beeps and notes go out as they come up in the journal. The
    standard input is best left in a mode that hands out keys at once and without an echo
    (`stty raw -echo min 0 time 0`). -/

namespace Chip8.Main

/-! ### Random bytes -/

/-- A source that cannot be foreseen. -/
structure Dice where
  generator : StdGen

instance : ByteSource Dice where
  next dice :=
    let (number, generator) := randNat dice.generator 0 255
    (UInt8.ofNat number, ⟨generator⟩)

/-! ### The file -/

/-- What the system says about a failure. -/
def cause : IO.Error → String
  | .noFileOrDirectory _ code text | .inappropriateType _ code text
  | .permissionDenied _ code text | .invalidArgument _ code text
  | .interrupted _ code text | .resourceExhausted _ code text =>
    text ++ " (os error " ++ toString code ++ ")"
  | .otherError code text | .hardwareFault code text | .resourceBusy code text
  | .unsupportedOperation code text =>
    text ++ " (os error " ++ toString code ++ ")"
  | error => toString error

/-- Open a file and read it to its end. -/
def deliver (path : String) : IO (Except String Delivery) := do
  match ← (IO.FS.Handle.mk path .read).toBaseIO with
  | .error error => return .error (cause error)
  | .ok file =>
    match ← file.readBinToEnd.toBaseIO with
    | .error error => return .ok (.broken [] (cause error))
    | .ok bytes => return .ok (.whole bytes.toList)

/-! ### The terminal -/

/-- Collect what is typed until the run is over. -/
partial def listen (input : IO.FS.Stream) (typed : IO.Ref ByteArray) (finished : IO.Ref Bool) :
    IO Unit := do
  if ← finished.get then return
  let bytes ← input.read 1
  if bytes.isEmpty then IO.sleep 1 else typed.modify (· ++ bytes)
  listen input typed finished

/-- Make an act happen in the terminal. -/
def happen (options : Options) (output errors : IO.FS.Stream) (act : Act) : IO Unit := do
  match act with
  | .drew picture =>
    output.putStr (Screen.frameCodes options.romName picture)
    output.flush
  | .buzzed true =>
    if !options.mute then
      output.putStr "\x07"
      output.flush
  | act =>
    for line in logLines .warn [act] do
      errors.putStr (line ++ "\r\n")

/-- Advance the session at one reading of the clock after another until it ends. -/
partial def play (options : Options) (typed : IO.Ref ByteArray) (start : Nat)
    (session : Session Dice FrameKeeper Typist Mute) : IO Outcome := do
  let output ← IO.getStdout
  let errors ← IO.getStderr
  let bytes ← typed.swap ByteArray.empty
  let elapsed := (← IO.monoNanosNow) - start
  let turn := Session.advance elapsed elapsed
    { session with input := { session.input with typed := [bytes.toList] } }
  match Session.ending turn with
  | some last =>
    for act in last.acts do happen options output errors act
    return Launch.ended options.rom last.state.interpreter.machine last.result
  | none =>
    for act in turn.acts do happen options output errors act
    IO.sleep (UInt32.ofNat (Session.pause / 1000000))
    play options typed start turn.state

/-- Run a program that has been loaded, with the terminal's second page up. -/
def perform (options : Options) (interpreter : Interpreter Dice) : IO Outcome := do
  let output ← IO.getStdout
  let typed ← IO.mkRef ByteArray.empty
  let finished ← IO.mkRef false
  let listener ← IO.asTask (listen (← IO.getStdin) typed finished) .dedicated
  output.putStr Screen.openCodes
  let outcome ← play options typed (← IO.monoNanosNow) (Launch.session options interpreter [])
  output.putStr Screen.closeCodes
  output.flush
  finished.set true
  IO.cancel listener
  return outcome

/-- Launch. -/
def launch (words : List String) : IO Outcome := do
  match Options.parse Command.standIn (words.map fun word => word.toUTF8.toList) with
  | .error refusal => return Launch.refused refusal
  | .ok options =>
    match ← deliver (Text.Utf8.lossy options.rom) with
    | .error text => return Launch.notOpened options.rom text
    | .ok program =>
      let seed ← IO.rand 0 0x80000000
      let loading := Interpreter.load program
        (Interpreter.fresh (Dice.mk (mkStdGen (seed + (← IO.monoNanosNow)))))
      match loading.result with
      | .error fault => return Launch.notLoaded options.rom fault
      | .ok _ => perform options loading.state

end Chip8.Main

/-- The program of the command line. -/
def main (words : List String) : IO UInt32 := do
  let outcome ← Chip8.Main.launch words
  IO.print outcome.output
  IO.eprint outcome.report
  return UInt32.ofNat outcome.exitCode
