import Chip8.Options.Command

/-! # The arguments of the program

    Five options with a value, one without, and the path of the program to run. What a parser finds
    in a command line becomes the options, each value in its place. -/

namespace Chip8.Options

open Command (Kind Value Parameter Matches Parser)

/-- The options with a value. -/
inductive Setting where
  | layout
  | cpuHz
  | timerHz
  | frameHz
  | keyPressMs
  deriving DecidableEq

namespace Setting

/-- The name of an option with a value. -/
def name : Setting → String
  | .layout => "layout"
  | .cpuHz => "cpu-hz"
  | .timerHz => "timer-hz"
  | .frameHz => "frame-hz"
  | .keyPressMs => "key-press-ms"

/-- What it may be: rates have 32 bits and are not 0, and a duration has 64. -/
def kind : Setting → Kind
  | .layout => .choice (Layout.all.map Layout.name)
  | .cpuHz | .timerHz | .frameHz => .number 1 0xffffffff
  | .keyPressMs => .number 0 0xffffffffffffffff

/-- The options with a value, in the order of the help text. -/
def all : List Setting := [.layout, .cpuHz, .timerHz, .frameHz, .keyPressMs]

end Setting

/-- What an option with a value is. -/
def value (o : Options) : Setting → Value
  | .layout => .choice o.layout.name
  | .cpuHz => .number o.cpuHz.toNat
  | .timerHz => .number o.timerHz.toNat
  | .frameHz => .number o.frameHz.toNat
  | .keyPressMs => .number o.keyPressMs.toNat

/-- The declaration of an option with a value. -/
def Setting.parameter (s : Setting) : Parameter where
  name := s.name
  kind := s.kind
  default := ({ rom := [] } : Options).value s

/-- The name of the one option without. -/
def muteName : String := "mute"

/-- The declarations of all arguments. -/
def command : Command where
  parameters := Setting.all.map Setting.parameter
  flags := [muteName]
  word := .path

/-! ### What a parser has found -/

/-- The number that an option is. -/
def numberOf (m : Matches) (s : Setting) : Except Refusal Nat :=
  match m.value s.name with
  | some (.number n) => .ok n
  | _ => .error .missingArgument

/-- The layout. -/
def layoutOf (m : Matches) : Except Refusal Layout :=
  match m.value Setting.layout.name with
  | some (.choice name) =>
    match Layout.ofName? name with
    | some layout => .ok layout
    | none => .error .missingArgument
  | _ => .error .missingArgument

/-- The path. -/
def romOf (m : Matches) : Except Refusal (List UInt8) :=
  match m.word with
  | .path bytes => .ok bytes
  | _ => .error .missingArgument

/-- The options that a parser has found. -/
def ofMatches (m : Matches) : Except Refusal Options := do
  return {
    rom := ← romOf m
    layout := ← layoutOf m
    cpuHz := UInt32.ofNat (← numberOf m .cpuHz)
    timerHz := UInt32.ofNat (← numberOf m .timerHz)
    frameHz := UInt32.ofNat (← numberOf m .frameHz)
    keyPressMs := UInt64.ofNat (← numberOf m .keyPressMs)
    mute := m.flag muteName }

/-- The options that a command line gives. -/
def parse (parser : Parser) (words : List (List UInt8)) : Except Refusal Options := do
  ofMatches (← parser command words)

end Chip8.Options
