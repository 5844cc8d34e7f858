import Chip8.Opcode.Basic

/-! # Instructions in words

    How an instruction is named in a trace, and the way back from a name and its operands. -/

namespace Chip8.Opcode

/-- The name of an instruction. -/
def name : Opcode → String
  | .clearScreen => "ClearDisplay"
  | .ret => "Return"
  | .jump .. => "Jump"
  | .call .. => "Call"
  | .skipEqImm .. => "SkipEqImm"
  | .skipNeImm .. => "SkipNeImm"
  | .skipEqReg .. => "SkipEqReg"
  | .loadImm .. => "LoadImm"
  | .addImm .. => "AddImm"
  | .loadReg .. => "LoadReg"
  | .or .. => "Or"
  | .and .. => "And"
  | .xor .. => "Xor"
  | .addReg .. => "AddReg"
  | .sub .. => "Sub"
  | .shiftRight .. => "ShiftRight"
  | .subReverse .. => "SubReverse"
  | .shiftLeft .. => "ShiftLeft"
  | .skipNeReg .. => "SkipNeReg"
  | .loadIndex .. => "LoadIndex"
  | .jumpOffset .. => "JumpOffset"
  | .random .. => "Random"
  | .draw .. => "Draw"
  | .skipKeyPressed .. => "SkipKeyPressed"
  | .skipKeyNotPressed .. => "SkipKeyNotPressed"
  | .loadDelay .. => "LoadDelay"
  | .waitKey .. => "WaitKey"
  | .setDelay .. => "SetDelay"
  | .setSound .. => "SetSound"
  | .addIndex .. => "AddIndex"
  | .loadDigit .. => "LoadDigit"
  | .storeBcd .. => "StoreBcd"
  | .storeRegisters .. => "StoreRegisters"
  | .loadRegisters .. => "LoadRegisters"

/-- The operands of an instruction, each with the name of its field, in the order of a trace. -/
def operands : Opcode → List (String × Nat)
  | .clearScreen | .ret => []
  | .jump nnn | .call nnn | .loadIndex nnn | .jumpOffset nnn => [("nnn", nnn.toNat)]
  | .skipEqImm x kk | .skipNeImm x kk | .loadImm x kk | .addImm x kk | .random x kk =>
    [("x", x.toNat), ("kk", kk.toNat)]
  | .skipEqReg x y | .loadReg x y | .or x y | .and x y | .xor x y | .addReg x y | .sub x y
  | .subReverse x y | .skipNeReg x y => [("x", x.toNat), ("y", y.toNat)]
  | .draw x y n => [("x", x.toNat), ("y", y.toNat), ("n", n.toNat)]
  | .shiftRight x | .shiftLeft x | .skipKeyPressed x | .skipKeyNotPressed x | .loadDelay x
  | .waitKey x | .setDelay x | .setSound x | .addIndex x | .loadDigit x | .storeBcd x
  | .storeRegisters x | .loadRegisters x => [("x", x.toNat)]

/-- One operand in a trace. -/
def operandText (operand : String × Nat) : String :=
  operand.1 ++ ": " ++ toString operand.2

/-- An instruction in a trace: its name, then its operands in braces if it has any. -/
def text (op : Opcode) : String :=
  match op.operands with
  | [] => op.name
  | operands => op.name ++ " \x7b " ++ ", ".intercalate (operands.map operandText) ++ " \x7d"

/-- The instruction of a name, its operands taken from the fields that it uses. -/
def ofName? (name : String) (f : Fields) : Option Opcode :=
  [.clearScreen, .ret, .jump f.nnn, .call f.nnn, .skipEqImm f.x f.kk, .skipNeImm f.x f.kk,
    .skipEqReg f.x f.y, .loadImm f.x f.kk, .addImm f.x f.kk, .loadReg f.x f.y, .or f.x f.y,
    .and f.x f.y, .xor f.x f.y, .addReg f.x f.y, .sub f.x f.y, .shiftRight f.x,
    .subReverse f.x f.y, .shiftLeft f.x, .skipNeReg f.x f.y, .loadIndex f.nnn, .jumpOffset f.nnn,
    .random f.x f.kk, .draw f.x f.y f.n, .skipKeyPressed f.x, .skipKeyNotPressed f.x,
    .loadDelay f.x, .waitKey f.x, .setDelay f.x, .setSound f.x, .addIndex f.x, .loadDigit f.x,
    .storeBcd f.x, .storeRegisters f.x, .loadRegisters f.x].find? fun op => op.name == name

end Chip8.Opcode
