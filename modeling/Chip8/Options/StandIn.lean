import Chip8.Options.Command
import Chip8.Text.Numeral
import Chip8.Text.Utf8

/-! # A parser of command lines

    Words are read from left to right. A word with two dashes is an option, its value in the same
    word after an equals sign or in the next word; a word with one dash is a cluster of letters, of
    which the first decides; two dashes alone turn every later word into an ordinary one; a lone
    dash is an ordinary word. Beside the options that are declared there are two for help and for
    the version, which end the reading.

    A value in a word of its own waits until the next word has been recognised, and only then is
    judged. So a word that cannot be recognised is reported before the value in front of it, while
    between two words that can be recognised the first mistake is the one reported. That the word
    that has to be there is missing is noticed last. -/

namespace Chip8.Command

open Options (ascii dash Refusal)

/-! ### Words -/

/-- What a word looks like. -/
inductive Word where
  /-- Two dashes alone. -/
  | escape
  /-- Two dashes and a name, with what follows an equals sign if there is one. -/
  | long (name : List UInt8) (text : Option (List UInt8))
  /-- One dash and letters. -/
  | cluster (first : UInt8) (others : List UInt8)
  /-- Anything else. -/
  | plain (bytes : List UInt8)
  deriving DecidableEq

/-- The equals sign. -/
def equals : UInt8 := 0x3d

/-- What follows the first equals sign. -/
def afterEquals (bytes : List UInt8) : Option (List UInt8) :=
  match bytes.dropWhile (· ≠ equals) with
  | [] => none
  | _ :: text => some text

/-- What a word looks like. -/
def Word.ofBytes : List UInt8 → Word
  | [] => .plain []
  | [b] => .plain [b]
  | b :: c :: rest =>
    if b ≠ dash then .plain (b :: c :: rest)
    else if c ≠ dash then .cluster c rest
    else if rest = [] then .escape
    else .long (rest.takeWhile (· ≠ equals)) (afterEquals rest)

/-- An option without a value. -/
inductive Switch where
  | flag (name : String)
  | help
  | version
  deriving DecidableEq

/-- The option with a value that has this name. -/
def parameter? (c : Command) (name : List UInt8) : Option Parameter :=
  c.parameters.find? fun p => ascii p.name = name

/-- The option without a value that has this name. -/
def switch? (c : Command) (name : List UInt8) : Option Switch :=
  if name = ascii "help" then some .help
  else if name = ascii "version" then some .version
  else (c.flags.find? fun flag => ascii flag = name).map .flag

/-! ### Values -/

/-- A value of this kind, read from bytes. A number may have a plus in front, and no minus. -/
def Kind.read : Kind → List UInt8 → Except Refusal Value
  | .path, bytes => if bytes = [] then .error .invalidValue else .ok (.path bytes)
  | .choice names, bytes =>
    match names.find? fun name => ascii name = bytes with
    | some name => .ok (.choice name)
    | none => .error .invalidValue
  | .number least most, bytes =>
    match Text.Utf8.chars? bytes with
    | none => .error .invalidUtf8
    | some cs =>
      match Text.unsigned? 64 cs with
      | some n =>
        if least ≤ n ∧ n ≤ most then .ok (.number n) else .error .valueValidation
      | none => .error .valueValidation

/-- What has been given so far. -/
structure Draft where
  value : String → Option Value := fun _ => none
  flag : String → Bool := fun _ => false
  word : Option Value := none

namespace Draft

/-- The draft with an option given. A missing value is noticed first, then an option given before,
    then a value that will not do. -/
def give (d : Draft) (p : Parameter) : Option (List UInt8) → Except Refusal Draft
  | none => .error .invalidValue
  | some text =>
    if (d.value p.name).isSome then .error .argumentConflict
    else do
      let value ← p.kind.read text
      return { d with value := fun name => if name = p.name then some value else d.value name }

/-- The draft with the word given. -/
def giveWord (d : Draft) (c : Command) (text : List UInt8) : Except Refusal Draft := do
  return { d with word := some (← c.word.read text) }

/-- The draft with a switch given. -/
def switchOn (d : Draft) : Switch → Except Refusal Draft
  | .help => .error .help
  | .version => .error .version
  | .flag flag =>
    if d.flag flag then .error .argumentConflict
    else .ok { d with flag := fun name => if name = flag then true else d.flag name }

/-- What has been found, once the word is known. What was not given has its default. -/
def finish (d : Draft) (c : Command) : Except Refusal Matches :=
  match d.word with
  | none => .error .missingArgument
  | some word =>
    let default (name : String) := (c.parameters.find? (·.name = name)).map (·.default)
    .ok { value := fun name => (d.value name).or (default name), flag := d.flag, word }

end Draft

/-! ### Reading -/

/-- What has been read but not judged. -/
inductive Waiting where
  | nothing
  /-- An option, with its value if that has been read. -/
  | parameter (p : Parameter) (text : Option (List UInt8))
  | word (text : List UInt8)
  deriving DecidableEq

/-- How far the reading of a command line has come. -/
structure Reading where
  draft : Draft := {}
  waiting : Waiting := .nothing
  /-- Are all further words ordinary ones? -/
  trailing : Bool := false

namespace Reading

variable (c : Command)

/-- Judge what waits. -/
def settle (r : Reading) : Except Refusal Reading :=
  match r.waiting with
  | .nothing => .ok r
  | .parameter p text => do return { r with draft := ← r.draft.give p text, waiting := .nothing }
  | .word text => do return { r with draft := ← r.draft.giveWord c text, waiting := .nothing }

/-- Has the word been read? -/
def hasWord (r : Reading) : Bool :=
  match r.waiting with
  | .word _ => true
  | _ => r.draft.word.isSome

/-- The word that has to be there. There is no second one. -/
def word (r : Reading) (text : List UInt8) : Except Refusal Reading :=
  if r.hasWord then .error .unknownArgument
  else do return { ← r.settle c with waiting := .word text }

/-- A switch. -/
def switch (r : Reading) (s : Switch) : Except Refusal Reading := do
  let r ← r.settle c
  return { r with draft := ← r.draft.switchOn s }

/-- An option with its name spelled out. -/
def long (r : Reading) (name : List UInt8) (text : Option (List UInt8)) :
    Except Refusal Reading :=
  match c.parameter? name, c.switch? name, text with
  | some p, _, none => do return { ← r.settle c with waiting := .parameter p none }
  | some p, _, some text => do
    let r ← r.settle c
    return { r with draft := ← r.draft.give p (some text) }
  | none, some s, none => r.switch c s
  | none, some _, some _ => .error .tooManyValues
  | none, none, _ => .error .unknownArgument

/-- A cluster of letters. Both letters that mean something end the reading. -/
def cluster (r : Reading) (first : UInt8) : Except Refusal Reading :=
  if [first] = ascii "h" then r.switch c .help
  else if [first] = ascii "V" then r.switch c .version
  else .error .unknownArgument

/-- The next word of the command line. -/
def next (r : Reading) (bytes : List UInt8) : Except Refusal Reading :=
  if r.trailing then r.word c bytes
  else match Word.ofBytes bytes with
    | .escape => .ok { r with trailing := true }
    | .long name text => r.long c name text
    | .cluster first _ => r.cluster c first
    | .plain bytes =>
      match r.waiting with
      | .parameter p none => .ok { r with waiting := .parameter p (some bytes) }
      | _ => r.word c bytes

/-- The end of the line. -/
def finish (r : Reading) : Except Refusal Matches := do
  (← r.settle c).draft.finish c

end Reading

/-- The parser that reads word by word. -/
def standIn : Parser := fun c words => do
  (← words.foldlM (Reading.next c) {}).finish c

end Chip8.Command
