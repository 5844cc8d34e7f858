import Chip8.Options.Basic

/-! # What the command line tells about itself -/

namespace Chip8.Options

/-- The answer to a wish for the version. -/
def versionText : String := "chip8vm 0.1.0\n"

/-- The answer to a wish for help. -/
def helpText : String :=
  "CHIP-8 emulator for the terminal\n" ++
  "\n" ++
  "Usage: chip8vm [OPTIONS] <ROM>\n" ++
  "\n" ++
  "Arguments:\n" ++
  "  <ROM>  ROM to load and execute\n" ++
  "\n" ++
  "Options:\n" ++
  "      --layout <LAYOUT>              Keyboard layout used to map keys onto the hex keypad " ++
    "[default: qwerty] [possible values: qwerty, dvorak]\n" ++
  "      --cpu-hz <CPU_HZ>              Instructions executed per second [default: 500]\n" ++
  "      --timer-hz <TIMER_HZ>          Delay and sound timer ticks per second [default: 60]\n" ++
  "      --frame-hz <FRAME_HZ>          Screen refreshes per second [default: 60]\n" ++
  "      --key-press-ms <KEY_PRESS_MS>  How long a key stays held after it was last pressed, " ++
    "in milliseconds [default: 100]\n" ++
  "      --mute                         Don't beep\n" ++
  "  -h, --help                         Print help\n" ++
  "  -V, --version                      Print version\n"

/-- What a refusal says. -/
def Refusal.text : Refusal → String
  | .help => helpText
  | .version => versionText
  | .unknownArgument => "error: unexpected argument\n"
  | .invalidValue => "error: invalid value\n"
  | .valueValidation => "error: malformed number, or number out of range\n"
  | .argumentConflict => "error: argument given twice\n"
  | .tooManyValues => "error: value for an argument that takes none\n"
  | .missingArgument => "error: required argument not given\n"
  | .invalidUtf8 => "error: number that is not text\n"

end Chip8.Options
