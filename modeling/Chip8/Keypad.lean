/-!
The keypad on a keyboard: sixteen keys in four rows, on the left-hand side of the letters.
-/

namespace Chip8.Keypad

/-- The character on each key of the keyboard, and the key of the keypad that it stands for. -/
def layout : List (Char × UInt8) :=
  [('1', 0x1), ('2', 0x2), ('3', 0x3), ('4', 0xC),
   ('q', 0x4), ('w', 0x5), ('e', 0x6), ('r', 0xD),
   ('a', 0x7), ('s', 0x8), ('d', 0x9), ('f', 0xE),
   ('z', 0xA), ('x', 0x0), ('c', 0xB), ('v', 0xF)]

/-- The key of a character of either case. -/
def key? (c : Char) : Option UInt8 :=
  layout.lookup c.toLower

/-- Every key of the keypad is on the keyboard. -/
theorem key_mem_layout : ∀ k < 16, UInt8.ofNat k ∈ layout.map Prod.snd := by decide

/-- No key of the keypad is on the keyboard twice. -/
theorem nodup_layout : (layout.map Prod.snd).Nodup := by decide

end Chip8.Keypad
