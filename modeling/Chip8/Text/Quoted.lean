import Chip8.Text.Form
import Chip8.Text.Hex
import Chip8.Text.Utf8

/-! # Quotation

    A quoted text can be read off a report without doubt about where it ends or what it holds. The
    quote and the backslash get a backslash in front, a few controls have a letter, and every other
    character without a form of its own is given by its code point. -/

namespace Chip8.Text

/-- A character inside quotes. -/
def escape (quote c : Char) : String :=
  if c = '\x00' then "\\0"
  else if c = '\t' then "\\t"
  else if c = '\r' then "\\r"
  else if c = '\n' then "\\n"
  else if c = '\\' ∨ c = quote then "\\" ++ String.singleton c
  else if hasForm c then String.singleton c
  else "\\u\x7b" ++ hex 1 c.toNat ++ "\x7d"

/-- A character in single quotes. -/
def quotedChar (c : Char) : String :=
  "'" ++ escape '\'' c ++ "'"

/-- A piece of a text in double quotes. Bytes that spell no character are given one by one. -/
def escapePiece : Piece → String
  | .char c => escape '"' c
  | .broken bytes => String.join (bytes.map fun b => "\\x" ++ hexCapital 2 b.toNat)

/-- Bytes as a text in double quotes. -/
def quotedBytes (bytes : List UInt8) : String :=
  "\"" ++ String.join ((Utf8.pieces bytes).map escapePiece) ++ "\""

end Chip8.Text
