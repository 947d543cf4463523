import Chip8.Font.Text

/-! The built-in fonts, named after the machines they come from. -/

namespace Chip8.Font

inductive Builtin
  | chip48 | cosmacVip | dream6800 | eti660
  deriving DecidableEq, Repr

instance : Inhabited Builtin := ⟨.chip48⟩

namespace Builtin

/-- Five rows a glyph, from the glyph of 0 to the glyph of F. -/
def bytes : Builtin → List UInt8
  | .chip48 => [
    0xF0, 0x90, 0x90, 0x90, 0xF0, 0x20, 0x60, 0x20, 0x20, 0x70,
    0xF0, 0x10, 0xF0, 0x80, 0xF0, 0xF0, 0x10, 0xF0, 0x10, 0xF0,
    0x90, 0x90, 0xF0, 0x10, 0x10, 0xF0, 0x80, 0xF0, 0x10, 0xF0,
    0xF0, 0x80, 0xF0, 0x90, 0xF0, 0xF0, 0x10, 0x20, 0x40, 0x40,
    0xF0, 0x90, 0xF0, 0x90, 0xF0, 0xF0, 0x90, 0xF0, 0x10, 0xF0,
    0xF0, 0x90, 0xF0, 0x90, 0x90, 0xE0, 0x90, 0xE0, 0x90, 0xE0,
    0xF0, 0x80, 0x80, 0x80, 0xF0, 0xE0, 0x90, 0x90, 0x90, 0xE0,
    0xF0, 0x80, 0xF0, 0x80, 0xF0, 0xF0, 0x80, 0xF0, 0x80, 0x80]
  | .cosmacVip => [
    0xF0, 0x90, 0x90, 0x90, 0xF0, 0x60, 0x20, 0x20, 0x20, 0x70,
    0xF0, 0x10, 0xF0, 0x80, 0xF0, 0xF0, 0x10, 0xF0, 0x10, 0xF0,
    0xA0, 0xA0, 0xF0, 0x20, 0x20, 0xF0, 0x80, 0xF0, 0x10, 0xF0,
    0xF0, 0x80, 0xF0, 0x90, 0xF0, 0xF0, 0x10, 0x10, 0x10, 0x10,
    0xF0, 0x90, 0xF0, 0x90, 0xF0, 0xF0, 0x90, 0xF0, 0x10, 0xF0,
    0xF0, 0x90, 0xF0, 0x90, 0x90, 0xF0, 0x50, 0x70, 0x50, 0xF0,
    0xF0, 0x80, 0x80, 0x80, 0xF0, 0xF0, 0x50, 0x50, 0x50, 0xF0,
    0xF0, 0x80, 0xF0, 0x80, 0xF0, 0xF0, 0x80, 0xF0, 0x80, 0x80]
  | .dream6800 => [
    0xE0, 0xA0, 0xA0, 0xA0, 0xE0, 0x40, 0x40, 0x40, 0x40, 0x40,
    0xE0, 0x20, 0xE0, 0x80, 0xE0, 0xE0, 0x20, 0xE0, 0x20, 0xE0,
    0x80, 0xA0, 0xA0, 0xE0, 0x20, 0xE0, 0x80, 0xE0, 0x20, 0xE0,
    0xE0, 0x80, 0xE0, 0xA0, 0xE0, 0xE0, 0x20, 0x20, 0x20, 0x20,
    0xE0, 0xA0, 0xE0, 0xA0, 0xE0, 0xE0, 0xA0, 0xE0, 0x20, 0xE0,
    0xE0, 0xA0, 0xE0, 0xA0, 0xA0, 0xC0, 0xA0, 0xE0, 0xA0, 0xC0,
    0xE0, 0x80, 0x80, 0x80, 0xE0, 0xC0, 0xA0, 0xA0, 0xA0, 0xC0,
    0xE0, 0x80, 0xE0, 0x80, 0xE0, 0xE0, 0x80, 0xC0, 0x80, 0x80]
  | .eti660 => [
    0xE0, 0xA0, 0xA0, 0xA0, 0xE0, 0x20, 0x20, 0x20, 0x20, 0x20,
    0xE0, 0x20, 0xE0, 0x80, 0xE0, 0xE0, 0x20, 0xE0, 0x20, 0xE0,
    0xA0, 0xA0, 0xE0, 0x20, 0x20, 0xE0, 0x80, 0xE0, 0x20, 0xE0,
    0xE0, 0x80, 0xE0, 0xA0, 0xE0, 0xE0, 0x20, 0x20, 0x20, 0x20,
    0xE0, 0xA0, 0xE0, 0xA0, 0xE0, 0xE0, 0xA0, 0xE0, 0x20, 0xE0,
    0xE0, 0xA0, 0xE0, 0xA0, 0xA0, 0x80, 0x80, 0xE0, 0xA0, 0xE0,
    0xE0, 0x80, 0x80, 0x80, 0xE0, 0x20, 0x20, 0xE0, 0xA0, 0xE0,
    0xE0, 0x80, 0xE0, 0x80, 0xE0, 0xE0, 0x80, 0xC0, 0x80, 0x80]

@[simp] theorem length_bytes (font : Builtin) : font.bytes.length = maxSize := by
  cases font <;> rfl

/-- The font of a name; ASCII letters count in either case. -/
def parse (name : String) : Except Error Builtin :=
  let lower := name.toList.map Char.toLower
  if lower = "chip48".toList ∨ lower = "chip-48".toList then .ok .chip48
  else if lower = "cosmac".toList ∨ lower = "vip".toList ∨ lower = "cosmac-vip".toList then
    .ok .cosmacVip
  else if lower = "dream".toList ∨ lower = "dream6800".toList then .ok .dream6800
  else if lower = "eti".toList ∨ lower = "eti660".toList then .ok .eti660
  else .error (.unknownFont name)

end Builtin

end Chip8.Font
