import Chip8.Error

/-!
What a machine draws on: a grid of pixels, and a keypad. An adapter owns both, and a machine
touches them only through the calls of `Display`. A call may fail, and an adapter that fails
keeps whatever it did before, so a failing call still hands back the adapter.
-/

namespace Chip8

/-- The dimensions of a grid, in pixels. -/
structure DisplaySize where
  width : Nat
  height : Nat
  deriving DecidableEq, Repr

namespace DisplaySize

/-- The grid of the first interpreters. -/
def standard : DisplaySize := ⟨64, 32⟩

/-- The grid of high resolution. -/
def extended : DisplaySize := ⟨128, 64⟩

def pixelCount (size : DisplaySize) : Nat :=
  size.width * size.height

end DisplaySize

/-- The calls through which a machine uses its display. -/
class Display (D : Type) where
  /-- The size that the adapter reports. -/
  size : D → DisplaySize
  /-- Whether a pixel is lit. An adapter may notice that it was asked. -/
  readPixel : D → (row col : Nat) → Except DisplayError Bool × D
  setPixel : D → (row col : Nat) → (lit : Bool) → Except DisplayError Unit × D
  /-- Brings the grid to whatever the adapter draws on. -/
  refresh : D → Except DisplayError Unit × D
  /-- The key that is held down, if any. -/
  pollKey : D → Option UInt8 × D
  /-- Gives up what the adapter holds. -/
  terminate : D → D := id

namespace Display

variable {D : Type} [Display D]

/-- What the adapter answers when it is asked for a pixel. -/
def pixel (d : D) (row col : Nat) : Except DisplayError Bool :=
  (readPixel d row col).1

/-- The highest row that can be addressed. -/
def maxRow (d : D) : Nat :=
  (size d).height - 1

/-- The highest column that can be addressed. -/
def maxCol (d : D) : Nat :=
  (size d).width - 1

end Display

end Chip8
