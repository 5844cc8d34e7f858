import Chip8.Options.Basic

/-! # Arguments and their declarations

    A program declares what its command line may say: options with a value, options without one, and
    one word that stands for itself. It does not read the command line. It hands the declarations to
    a parser, and is given one value for every option, or the reason why there are none. -/

namespace Chip8

namespace Options

/-- The bytes of a text of ASCII characters. -/
def ascii (s : String) : List UInt8 := s.toList.map fun c => UInt8.ofNat c.toNat

/-- The dash. -/
def dash : UInt8 := 0x2d

/-- Does a word look like an option? A lone dash does not. -/
def looksLikeOption (word : List UInt8) : Bool :=
  word.head? = some dash ∧ word.length > 1

end Options

namespace Command

/-! ### Values -/

/-- What an argument may be. -/
inductive Kind where
  /-- A path: bytes, but not none at all. -/
  | path
  /-- One of these names. -/
  | choice (names : List String)
  /-- A number in this range. -/
  | number (least most : Nat)
  deriving DecidableEq

/-- What an argument is. -/
inductive Value where
  | path (bytes : List UInt8)
  | choice (name : String)
  | number (n : Nat)
  deriving DecidableEq

/-- Is the value of this kind? -/
def Kind.Admits : Kind → Value → Prop
  | .path, .path bytes => bytes ≠ []
  | .choice names, .choice name => name ∈ names
  | .number least most, .number n => least ≤ n ∧ n ≤ most
  | _, _ => False

instance : (kind : Kind) → (value : Value) → Decidable (kind.Admits value)
  | .path, .path bytes => inferInstanceAs (Decidable (bytes ≠ []))
  | .choice names, .choice name => inferInstanceAs (Decidable (name ∈ names))
  | .number least most, .number n => inferInstanceAs (Decidable (least ≤ n ∧ n ≤ most))
  | .path, .choice _ | .path, .number _ | .choice _, .path _ | .choice _, .number _
  | .number _ _, .path _ | .number _ _, .choice _ => .isFalse id

/-- An option with a value. -/
structure Parameter where
  /-- It is given by this name after two dashes. -/
  name : String
  kind : Kind
  /-- What it is if it is not given. -/
  default : Value
  deriving DecidableEq

end Command

/-- The arguments of a program. -/
structure Command where
  /-- The options with a value. -/
  parameters : List Command.Parameter
  /-- The names of the options without one. -/
  flags : List String
  /-- The word that belongs to no option. There has to be exactly one. -/
  word : Command.Kind
  deriving DecidableEq

namespace Command

/-! ### Parsers -/

/-- What a command line was found to say. -/
structure Matches where
  /-- The values of the options, by name. -/
  value : String → Option Value
  /-- The options without a value: were they given? -/
  flag : String → Bool
  word : Value

/-- Whoever reads command lines for programs that declare their arguments. The name of the program
    is not among the words. -/
def Parser : Type := Command → List (List UInt8) → Except Options.Refusal Matches

end Command

end Chip8
