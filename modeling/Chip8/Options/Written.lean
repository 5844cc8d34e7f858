import Chip8.Options.Parse

/-! # Writing a command line

    Options can be written down in many ways: the parts of a command line come in any order, a value
    stands in the word of its option or in the next one, and what has its default need not be said.
    A path that looks like an option comes last, after two dashes. -/

namespace Chip8.Options

/-- A part of a command line whose words stay together. -/
inductive Clause where
  /-- An option with its value, in one word or in two. -/
  | setting (s : Setting) (attached : Bool)
  | mute
  | rom
  deriving DecidableEq

/-- The value of an option as it is written: numbers in decimal, the layout by its name. -/
def valueText (o : Options) : Setting → String
  | .layout => o.layout.name
  | .cpuHz => toString o.cpuHz.toNat
  | .timerHz => toString o.timerHz.toNat
  | .frameHz => toString o.frameHz.toNat
  | .keyPressMs => toString o.keyPressMs.toNat

/-- Does an option have its default? -/
def isDefault (o : Options) (s : Setting) : Bool :=
  o.valueText s = ({ rom := o.rom } : Options).valueText s

/-- The words of a clause. -/
def Clause.words (o : Options) : Clause → List (List UInt8)
  | .setting s true => [ascii ("--" ++ s.name ++ "=" ++ o.valueText s)]
  | .setting s false => [ascii ("--" ++ s.name), ascii (o.valueText s)]
  | .mute => [ascii "--mute"]
  | .rom => [o.rom]

/-- The words of a list of clauses. -/
def line (o : Options) (clauses : List Clause) : List (List UInt8) :=
  clauses.flatMap (Clause.words o)

/-- The words of a list of clauses and, after two dashes, the path. -/
def trailingLine (o : Options) (clauses : List Clause) : List (List UInt8) :=
  o.line clauses ++ [[dash, dash], o.rom]

/-- The options with a value that a list of clauses gives. -/
def given (clauses : List Clause) : List Setting :=
  clauses.filterMap fun
    | .setting s _ => some s
    | _ => none

/-- Do the clauses say what there is to say, the path aside? Nothing is said twice, whatever differs
    from its default is said, and silence is asked for where it is wanted. -/
structure Tells (o : Options) (clauses : List Clause) : Prop where
  once : (given clauses).Nodup
  told : ∀ s, o.isDefault s = false → s ∈ given clauses
  mute : clauses.count .mute = if o.mute then 1 else 0

/-- Is this a command line for the options? -/
inductive Writes (o : Options) : List (List UInt8) → Prop
  /-- The path is one of the clauses. -/
  | plain {clauses : List Clause} (tells : Tells o clauses) (rom : clauses.count .rom = 1)
      (path : looksLikeOption o.rom = false) : Writes o (o.line clauses)
  /-- The path comes last. -/
  | trailing {clauses : List Clause} (tells : Tells o clauses) (rom : clauses.count .rom = 0) :
      Writes o (o.trailingLine clauses)

end Chip8.Options
