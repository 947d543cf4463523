import Chip8.Instruction.Basic
import Chip8.Text.Hex

/-!
The assembly text of an instruction: the name of its operation, and the operands behind it,
separated by commas. Which operands there are tells apart the many operations called `LD`.
-/

namespace Chip8

/-- What can stand behind the name of an operation. -/
inductive Operand
  | register (x : Nibble)
  | address (nnn : UInt16)
  | byte (nn : UInt8)
  | count (n : Nibble)
  /-- The index register. -/
  | index
  /-- The memory that the index register points to. -/
  | memory
  | delay
  | sound
  | key
  /-- The glyph of a hexadecimal digit. -/
  | glyph
  /-- The three decimal digits of a byte. -/
  | digits
  deriving DecidableEq, Repr

/-- Registers and addresses are in lower-case hexadecimal, the count of rows in decimal. -/
def Operand.text : Operand → String
  | register x => "V" ++ Text.fixedHex 1 x.val
  | address nnn => "0x" ++ Text.paddedHex 3 nnn.toNat
  | byte nn => "0x" ++ Text.fixedHex 2 nn.toNat
  | count n => toString n.val
  | index => "I"
  | memory => "[I]"
  | delay => "DT"
  | sound => "ST"
  | key => "K"
  | glyph => "F"
  | digits => "B"

namespace Instruction

/-- The name of the operation. -/
def operation : Instruction → String
  | .sys _ => "SYS"
  | .clear => "CLS"
  | .ret => "RET"
  | .jump _ | .jumpOffset _ => "JP"
  | .call _ => "CALL"
  | .skipEqImm _ _ | .skipEqReg _ _ => "SE"
  | .skipNeImm _ _ | .skipNeReg _ _ => "SNE"
  | .loadImm _ _ | .loadReg _ _ | .loadIndex _ | .loadDelay _ | .waitKey _ | .setDelay _
  | .setSound _ | .loadGlyph _ | .storeBcd _ | .storeRegs _ | .loadRegs _ => "LD"
  | .addImm _ _ | .addReg _ _ | .addIndex _ => "ADD"
  | .or _ _ => "OR"
  | .and _ _ => "AND"
  | .xor _ _ => "XOR"
  | .subReg _ _ => "SUB"
  | .shiftRight _ _ => "SHR"
  | .subFromReg _ _ => "SUBN"
  | .shiftLeft _ _ => "SHL"
  | .random _ _ => "RND"
  | .draw _ _ _ => "DRW"
  | .skipKey _ => "SKP"
  | .skipNotKey _ => "SKNP"

/-- The operands, destination first. -/
def operands : Instruction → List Operand
  | .clear | .ret => []
  | .sys nnn | .jump nnn | .call nnn => [.address nnn]
  | .skipEqImm x nn | .skipNeImm x nn | .loadImm x nn | .addImm x nn | .random x nn =>
    [.register x, .byte nn]
  | .skipEqReg x y | .skipNeReg x y | .loadReg x y | .or x y | .and x y | .xor x y
  | .addReg x y | .subReg x y | .shiftRight x y | .subFromReg x y | .shiftLeft x y =>
    [.register x, .register y]
  | .loadIndex nnn => [.index, .address nnn]
  | .jumpOffset nnn => [.register 0, .address nnn]
  | .draw x y n => [.register x, .register y, .count n]
  | .skipKey x | .skipNotKey x => [.register x]
  | .loadDelay x => [.register x, .delay]
  | .waitKey x => [.register x, .key]
  | .setDelay x => [.delay, .register x]
  | .setSound x => [.sound, .register x]
  | .addIndex x => [.index, .register x]
  | .loadGlyph x => [.glyph, .register x]
  | .storeBcd x => [.digits, .register x]
  | .storeRegs x => [.memory, .register x]
  | .loadRegs x => [.register x, .memory]

/-- The operation, and behind a space the operands, if there are any. -/
def mnemonic (i : Instruction) : String :=
  match i.operands with
  | [] => i.operation
  | operands => i.operation ++ " " ++ ", ".intercalate (operands.map Operand.text)

end Instruction

end Chip8
