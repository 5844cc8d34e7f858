import Chip8.Options.Command

/-! # Standard parsing

    What may be taken for granted of a parser. An option is given by two dashes and its name, and
    its value stands behind an equals sign or in the next word. Options come in any order, each of
    them once at the most, and what is not given has its default. Two dashes alone end the options,
    so that a word behind them may look like one. Every value is checked against its declaration.

    The first five of these laws are about command lines that say nothing wrong (`Line.Conforms`).
    Of all others it is not said what becomes of them, but for the last two: whatever is accepted
    has been checked. -/

namespace Chip8.Command

open Options (ascii dash looksLikeOption)

/-! ## Section 1: Command lines in pieces -/

/-- One thing that a command line says. -/
inductive Piece where
  /-- An option with its value, in one word or in two. -/
  | parameter (name : String) (text : List UInt8) (attached : Bool)
  /-- An option without one. -/
  | flag (name : String)
  | word (text : List UInt8)
  deriving DecidableEq

/-- The words that it is said in. -/
def Piece.words : Piece → List (List UInt8)
  | .parameter name text true => [ascii ("--" ++ name ++ "=") ++ text]
  | .parameter name text false => [ascii ("--" ++ name), text]
  | .flag name => [ascii ("--" ++ name)]
  | .word text => [text]

/-- What a piece is about. -/
inductive Topic where
  | parameter (name : String)
  | flag (name : String)
  | word
  deriving DecidableEq

/-- What a piece is about. -/
def Piece.topic : Piece → Topic
  | .parameter name _ _ => .parameter name
  | .flag name => .flag name
  | .word _ => .word

/-- A command line. -/
structure Line where
  pieces : List Piece
  /-- A word that follows after two dashes. -/
  last : Option (List UInt8) := none

/-- All pieces of a command line, the last word among them. -/
def Line.said (l : Line) : List Piece := l.pieces ++ (l.last.map Piece.word).toList

/-- The words of a command line. -/
def Line.words (l : Line) : List (List UInt8) :=
  l.pieces.flatMap Piece.words ++
    match l.last with
    | none => []
    | some text => [[dash, dash], text]

/-! ## Section 2: Command lines with nothing wrong -/

/-- A text that an argument of this kind is given by, and what it is then: a path is given by its
    bytes, a choice by its name and a number by its decimal numeral. -/
inductive Kind.Reads : Kind → List UInt8 → Value → Prop
  | path {bytes : List UInt8} (h : bytes ≠ []) : Reads .path bytes (.path bytes)
  | choice {names : List String} {name : String} (h : name ∈ names) :
      Reads (.choice names) (ascii name) (.choice name)
  | number {least most n : Nat} (hleast : least ≤ n) (hmost : n ≤ most) :
      Reads (.number least most) (ascii (toString n)) (.number n)

/-- A piece that has been declared, with a text that its argument is given by. A word of its own
    must not look like an option. -/
inductive Piece.Stands (c : Command) : Piece → Prop
  | parameter {p : Parameter} {text : List UInt8} {v : Value} {attached : Bool}
      (hp : p ∈ c.parameters) (hreads : p.kind.Reads text v)
      (hplain : attached = false → looksLikeOption text = false) :
      Stands c (.parameter p.name text attached)
  | flag {name : String} (h : name ∈ c.flags) : Stands c (.flag name)
  | word {text : List UInt8} {v : Value} (hreads : c.word.Reads text v)
      (hplain : looksLikeOption text = false) : Stands c (.word text)

/-- A command line that says nothing wrong, nothing twice, and the word that has to be there. -/
structure Line.Conforms (c : Command) (l : Line) : Prop where
  pieces : ∀ piece ∈ l.pieces, piece.Stands c
  /-- After two dashes it does not matter what the word looks like. -/
  last : ∀ text ∈ l.last, ∃ v, c.word.Reads text v
  once : (l.said.map Piece.topic).Nodup
  word : ∃ text, .word text ∈ l.said

/-! ## Section 3: Parsers -/

/-- The parser does to the command lines of a program what can be expected. -/
structure StandardParsing (parser : Parser) (c : Command) : Prop where
  /-- A command line that says nothing wrong is accepted. -/
  accepted {l : Line} : l.Conforms c → ∃ m, parser c l.words = .ok m
  /-- An option that is given is what its text says, -/
  given {l : Line} {m : Matches} {p : Parameter} {text : List UInt8} {attached : Bool} {v : Value} :
    l.Conforms c → parser c l.words = .ok m → p ∈ c.parameters →
      .parameter p.name text attached ∈ l.pieces → p.kind.Reads text v → m.value p.name = some v
  /-- and one that is not given has its default. -/
  default {l : Line} {m : Matches} {p : Parameter} :
    l.Conforms c → parser c l.words = .ok m → p ∈ c.parameters →
      (∀ text attached, .parameter p.name text attached ∉ l.pieces) →
      m.value p.name = some p.default
  flag {l : Line} {m : Matches} {name : String} :
    l.Conforms c → parser c l.words = .ok m → name ∈ c.flags →
      (m.flag name = true ↔ .flag name ∈ l.pieces)
  word {l : Line} {m : Matches} {text : List UInt8} {v : Value} :
    l.Conforms c → parser c l.words = .ok m → .word text ∈ l.said → c.word.Reads text v →
      m.word = v
  /-- Whatever a command line looks like, no option gets a value that was not declared for it, -/
  checked {words : List (List UInt8)} {m : Matches} {p : Parameter} :
    parser c words = .ok m → p ∈ c.parameters →
      ∃ v, m.value p.name = some v ∧ p.kind.Admits v
  /-- and neither does the word. -/
  checkedWord {words : List (List UInt8)} {m : Matches} :
    parser c words = .ok m → c.word.Admits m.word

end Chip8.Command
