import Chip8.Opcode

/-!
Instructions: what a sixteen-bit word means. `Instruction.decode?` reads a word and
`Instruction.encode` writes it back, each by the pattern beside the constructor: `X`, `Y`, `N`
are nibbles, `NN` is a byte and `NNN` an address of twelve bits.
-/

namespace Chip8

/-- A decoded instruction. -/
inductive Instruction
  /-- `0NNN`: a routine in machine language; nothing happens. -/
  | sys (nnn : UInt16)
  /-- `00E0` -/
  | clear
  /-- `00EE` -/
  | ret
  /-- `1NNN` -/
  | jump (nnn : UInt16)
  /-- `2NNN` -/
  | call (nnn : UInt16)
  /-- `3XNN` -/
  | skipEqImm (x : Nibble) (nn : UInt8)
  /-- `4XNN` -/
  | skipNeImm (x : Nibble) (nn : UInt8)
  /-- `5XY0` -/
  | skipEqReg (x y : Nibble)
  /-- `6XNN` -/
  | loadImm (x : Nibble) (nn : UInt8)
  /-- `7XNN` -/
  | addImm (x : Nibble) (nn : UInt8)
  /-- `8XY0` -/
  | loadReg (x y : Nibble)
  /-- `8XY1` -/
  | or (x y : Nibble)
  /-- `8XY2` -/
  | and (x y : Nibble)
  /-- `8XY3` -/
  | xor (x y : Nibble)
  /-- `8XY4` -/
  | addReg (x y : Nibble)
  /-- `8XY5`: VX less VY. -/
  | subReg (x y : Nibble)
  /-- `8XY6` -/
  | shiftRight (x y : Nibble)
  /-- `8XY7`: VY less VX. -/
  | subFromReg (x y : Nibble)
  /-- `8XYE` -/
  | shiftLeft (x y : Nibble)
  /-- `9XY0` -/
  | skipNeReg (x y : Nibble)
  /-- `ANNN` -/
  | loadIndex (nnn : UInt16)
  /-- `BNNN` or `BXNN`: the compatibility mode says which register is added. -/
  | jumpOffset (nnn : UInt16)
  /-- `CXNN` -/
  | random (x : Nibble) (nn : UInt8)
  /-- `DXYN` -/
  | draw (x y n : Nibble)
  /-- `EX9E` -/
  | skipKey (x : Nibble)
  /-- `EXA1` -/
  | skipNotKey (x : Nibble)
  /-- `FX07` -/
  | loadDelay (x : Nibble)
  /-- `FX0A` -/
  | waitKey (x : Nibble)
  /-- `FX15` -/
  | setDelay (x : Nibble)
  /-- `FX18` -/
  | setSound (x : Nibble)
  /-- `FX1E` -/
  | addIndex (x : Nibble)
  /-- `FX29` -/
  | loadGlyph (x : Nibble)
  /-- `FX33` -/
  | storeBcd (x : Nibble)
  /-- `FX55` -/
  | storeRegs (x : Nibble)
  /-- `FX65` -/
  | loadRegs (x : Nibble)
  deriving DecidableEq, Repr

namespace Instruction

/-- The `8XYN` family: arithmetic and logic between two registers. -/
def decodeArithmetic? (x y n : Nibble) : Option Instruction :=
  match n.val with
  | 0x0 => some (.loadReg x y)
  | 0x1 => some (.or x y)
  | 0x2 => some (.and x y)
  | 0x3 => some (.xor x y)
  | 0x4 => some (.addReg x y)
  | 0x5 => some (.subReg x y)
  | 0x6 => some (.shiftRight x y)
  | 0x7 => some (.subFromReg x y)
  | 0xE => some (.shiftLeft x y)
  | _ => none

/-- The `EXNN` family: skips on the state of a key. -/
def decodeKey? (x : Nibble) (nn : UInt8) : Option Instruction :=
  match nn.toNat with
  | 0x9E => some (.skipKey x)
  | 0xA1 => some (.skipNotKey x)
  | _ => none

/-- The `FXNN` family: timers, keys, the index register and memory. -/
def decodeMisc? (x : Nibble) (nn : UInt8) : Option Instruction :=
  match nn.toNat with
  | 0x07 => some (.loadDelay x)
  | 0x0A => some (.waitKey x)
  | 0x15 => some (.setDelay x)
  | 0x18 => some (.setSound x)
  | 0x1E => some (.addIndex x)
  | 0x29 => some (.loadGlyph x)
  | 0x33 => some (.storeBcd x)
  | 0x55 => some (.storeRegs x)
  | 0x65 => some (.loadRegs x)
  | _ => none

/-- The instruction with the given fields: the family, the operand nibbles, the low byte and the
address. -/
def ofFields? (family x y n : Nibble) (nn : UInt8) (nnn : UInt16) : Option Instruction :=
  match family.val with
  | 0x0 => some (if nnn = 0x0E0 then .clear else if nnn = 0x0EE then .ret else .sys nnn)
  | 0x1 => some (.jump nnn)
  | 0x2 => some (.call nnn)
  | 0x3 => some (.skipEqImm x nn)
  | 0x4 => some (.skipNeImm x nn)
  | 0x5 => if n = 0 then some (.skipEqReg x y) else none
  | 0x6 => some (.loadImm x nn)
  | 0x7 => some (.addImm x nn)
  | 0x8 => decodeArithmetic? x y n
  | 0x9 => if n = 0 then some (.skipNeReg x y) else none
  | 0xA => some (.loadIndex nnn)
  | 0xB => some (.jumpOffset nnn)
  | 0xC => some (.random x nn)
  | 0xD => some (.draw x y n)
  | 0xE => decodeKey? x nn
  | _ => decodeMisc? x nn

/-- The instruction that a word stands for, if it stands for one. -/
def decode? (word : UInt16) : Option Instruction :=
  ofFields? (Opcode.nibble word 0) (Opcode.nibble word 1) (Opcode.nibble word 2)
    (Opcode.nibble word 3) (Opcode.lowByte word) (address word)

/-- Decodes a word fetched from `addr`; the address serves only to report a word that is no
instruction. -/
def decode (word addr : UInt16) : Except Error Instruction :=
  match decode? word with
  | some instruction => .ok instruction
  | none => .error (.unknownOpcode word addr)

/-- A word with an address operand. -/
def addressWord (family : Nat) (nnn : UInt16) : UInt16 :=
  UInt16.ofNat (family * 0x1000 + nnn.toNat)

/-- A word with a register and a byte operand. -/
def byteWord (family : Nat) (x : Nibble) (nn : Nat) : UInt16 :=
  UInt16.ofNat (family * 0x1000 + x.val * 0x100 + nn)

/-- A word with two registers and a nibble. -/
def nibbleWord (family : Nat) (x y : Nibble) (n : Nat) : UInt16 :=
  UInt16.ofNat (family * 0x1000 + x.val * 0x100 + y.val * 0x10 + n)

/-- The word of an instruction, by the pattern of its constructor. -/
def encode : Instruction → UInt16
  | .sys nnn => addressWord 0x0 nnn
  | .clear => 0x00E0
  | .ret => 0x00EE
  | .jump nnn => addressWord 0x1 nnn
  | .call nnn => addressWord 0x2 nnn
  | .skipEqImm x nn => byteWord 0x3 x nn.toNat
  | .skipNeImm x nn => byteWord 0x4 x nn.toNat
  | .skipEqReg x y => nibbleWord 0x5 x y 0x0
  | .loadImm x nn => byteWord 0x6 x nn.toNat
  | .addImm x nn => byteWord 0x7 x nn.toNat
  | .loadReg x y => nibbleWord 0x8 x y 0x0
  | .or x y => nibbleWord 0x8 x y 0x1
  | .and x y => nibbleWord 0x8 x y 0x2
  | .xor x y => nibbleWord 0x8 x y 0x3
  | .addReg x y => nibbleWord 0x8 x y 0x4
  | .subReg x y => nibbleWord 0x8 x y 0x5
  | .shiftRight x y => nibbleWord 0x8 x y 0x6
  | .subFromReg x y => nibbleWord 0x8 x y 0x7
  | .shiftLeft x y => nibbleWord 0x8 x y 0xE
  | .skipNeReg x y => nibbleWord 0x9 x y 0x0
  | .loadIndex nnn => addressWord 0xA nnn
  | .jumpOffset nnn => addressWord 0xB nnn
  | .random x nn => byteWord 0xC x nn.toNat
  | .draw x y n => nibbleWord 0xD x y n.val
  | .skipKey x => byteWord 0xE x 0x9E
  | .skipNotKey x => byteWord 0xE x 0xA1
  | .loadDelay x => byteWord 0xF x 0x07
  | .waitKey x => byteWord 0xF x 0x0A
  | .setDelay x => byteWord 0xF x 0x15
  | .setSound x => byteWord 0xF x 0x18
  | .addIndex x => byteWord 0xF x 0x1E
  | .loadGlyph x => byteWord 0xF x 0x29
  | .storeBcd x => byteWord 0xF x 0x33
  | .storeRegs x => byteWord 0xF x 0x55
  | .loadRegs x => byteWord 0xF x 0x65

/-- What `decode?` can give: an address operand has twelve bits, and the words of `clear` and
`ret` are not routine calls. -/
def WellFormed : Instruction → Prop
  | .sys nnn => nnn.toNat < 0x1000 ∧ nnn ≠ 0x0E0 ∧ nnn ≠ 0x0EE
  | .jump nnn | .call nnn | .loadIndex nnn | .jumpOffset nnn => nnn.toNat < 0x1000
  | _ => True

end Instruction

end Chip8
