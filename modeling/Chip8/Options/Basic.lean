import Chip8.Cadence
import Chip8.Keyboard.Layout

/-! # Options

    What a user can choose: the program, the layout of the keyboard, the three rates, how long a key
    stays held, and silence. A command line that gives no such choice is refused. -/

namespace Chip8

/-- The choices of a user. -/
structure Options where
  /-- The path of the program, as bytes. -/
  rom : List UInt8
  layout : Layout := .qwerty
  cpuHz : UInt32 := 500
  timerHz : UInt32 := 60
  frameHz : UInt32 := 60
  /-- How long a key stays held after it was last pressed, in milliseconds. -/
  keyPressMs : UInt64 := 100
  /-- No beeps. -/
  mute : Bool := false
  deriving DecidableEq, Inhabited

namespace Options

/-- The rates of the session. -/
def rates (o : Options) : Rates := ⟨o.cpuHz, o.timerHz, o.frameHz⟩

/-- How long a press lasts, in nanoseconds. -/
def hold (o : Options) : Nat := o.keyPressMs.toNat * 1000000

/-- Why a command line gives no options. -/
inductive Refusal where
  /-- No such option, or a second path. -/
  | unknownArgument
  /-- An option without its value, a layout that is not known, or an empty path. -/
  | invalidValue
  /-- A number that is malformed or out of range. -/
  | valueValidation
  /-- An option given twice. -/
  | argumentConflict
  /-- A value for an option that takes none. -/
  | tooManyValues
  /-- No path, or no value for an option that has no default. -/
  | missingArgument
  /-- A number that is not even text. -/
  | invalidUtf8
  /-- The user asks for help. -/
  | help
  /-- The user asks for the version. -/
  | version
  deriving DecidableEq

/-- The exit code that goes with a refusal. Asking for help is no mistake. -/
def Refusal.exitCode : Refusal → Nat
  | .help | .version => 0
  | _ => 2

end Options

end Chip8
