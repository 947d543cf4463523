import Chip8.Text.Hex
import Chip8.Text.Quoted

/-!
Pixel colours: three bytes, written as six hexadecimal digits, with red first.
-/

namespace Chip8

structure Color where
  r : UInt8
  g : UInt8
  b : UInt8
  deriving DecidableEq, Repr, Inhabited

/-- A text that names no colour. -/
structure ColorError where
  text : String
  deriving DecidableEq, Repr

def ColorError.message (e : ColorError) : String :=
  "failed to parse hex color: " ++ Text.quote e.text

namespace Color

def black : Color := ⟨0, 0, 0⟩

def white : Color := ⟨255, 255, 255⟩

/-- The colour in the low three bytes; the high byte is dropped. -/
def ofRgb (rgb : UInt32) : Color :=
  ⟨(rgb >>> 16).toUInt8, (rgb >>> 8).toUInt8, rgb.toUInt8⟩

def rgb (c : Color) : UInt32 :=
  c.r.toUInt32 <<< 16 ||| c.g.toUInt32 <<< 8 ||| c.b.toUInt32

/-- `0x` and six upper-case digits. -/
def text (c : Color) : String :=
  "0x" ++ Text.upperHex 6 c.rgb.toNat

/-- The four bytes of a pixel buffer: padding, blue, green, red. -/
def bytes (c : Color) : List UInt8 :=
  [0, c.b, c.g, c.r]

/-- The digits behind one optional mark, `0x` or `#`. -/
def dropMark : List Char → List Char
  | '0' :: 'x' :: digits => digits
  | '#' :: digits => digits
  | digits => digits

/-- The byte that two hexadecimal digits write. -/
def byte? (hi lo : Char) : Option UInt8 := do
  let hi ← Text.hexValue? hi
  let lo ← Text.hexValue? lo
  return UInt8.ofNat (16 * hi + lo)

/-- Exactly six digits of either case. -/
def ofDigits? : List Char → Option Color
  | [r₁, r₀, g₁, g₀, b₁, b₀] => do
    let r ← byte? r₁ r₀
    let g ← byte? g₁ g₀
    let b ← byte? b₁ b₀
    return { r, g, b }
  | _ => none

def parse (s : String) : Except ColorError Color :=
  match ofDigits? (dropMark s.toList) with
  | some c => .ok c
  | none => .error ⟨s⟩

end Color

end Chip8
