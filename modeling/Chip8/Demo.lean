/-!
The built-in program: shows the hexadecimal digits one after the other, half a second each,
with the glyphs of the font and the delay timer.
-/

namespace Chip8

def demoProgram : List UInt8 := [
  0x00, 0xE0, -- 0x200: CLS
  0x60, 0x00, -- 0x202: LD V0, 0x00     the digit
  0x61, 0x1C, -- 0x204: LD V1, 0x1c     its column
  0x62, 0x0D, -- 0x206: LD V2, 0x0d     its row
  0xF0, 0x29, -- 0x208: LD F, V0
  0xD1, 0x25, -- 0x20a: DRW V1, V2, 5
  0x63, 0x1E, -- 0x20c: LD V3, 0x1e
  0xF3, 0x15, -- 0x20e: LD DT, V3
  0xF3, 0x07, -- 0x210: LD V3, DT
  0x33, 0x00, -- 0x212: SE V3, 0x00
  0x12, 0x10, -- 0x214: JP 0x210
  0xD1, 0x25, -- 0x216: DRW V1, V2, 5   erases it
  0x70, 0x01, -- 0x218: ADD V0, 0x01
  0x40, 0x10, -- 0x21a: SNE V0, 0x10
  0x60, 0x00, -- 0x21c: LD V0, 0x00
  0x12, 0x08] -- 0x21e: JP 0x208

end Chip8
