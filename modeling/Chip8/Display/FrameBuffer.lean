import Chip8.Display.Basic
import Chip8.Color

/-!
A display in memory: a grid of pixels in row-major order, kept twice, as the lit cells and as
the colours to show, and a single held key.
-/

namespace Chip8

structure FrameBuffer where
  size : DisplaySize
  /-- Which pixels are lit. -/
  cells : Vector Bool size.pixelCount
  /-- The colour of each pixel. -/
  pixels : Vector Color size.pixelCount
  foreground : Color
  background : Color
  /-- Whether a redraw was asked for since `clearDirty`. -/
  dirty : Bool
  /-- How often a redraw was asked for. -/
  refreshes : Nat
  key : Option UInt8

namespace FrameBuffer

/-- A blank grid, to be drawn at once. -/
def new (size : DisplaySize) (foreground : Color := Color.white)
    (background : Color := Color.black) : FrameBuffer where
  size
  cells := Vector.replicate size.pixelCount false
  pixels := Vector.replicate size.pixelCount background
  foreground
  background
  dirty := true
  refreshes := 0
  key := none

def width (fb : FrameBuffer) : Nat :=
  fb.size.width

def height (fb : FrameBuffer) : Nat :=
  fb.size.height

/-- A pixel of the grid lies within it when it is counted in row-major order. -/
theorem index_lt {size : DisplaySize} {row col : Nat} (hrow : row < size.height)
    (hcol : col < size.width) : row * size.width + col < size.pixelCount := by
  have h := Nat.mul_le_mul_right size.width (Nat.succ_le_of_lt hrow)
  simp only [DisplaySize.pixelCount, Nat.succ_mul] at h ⊢
  rw [Nat.mul_comm size.width]
  omega

/-- The position of a pixel of the grid. -/
def index? (fb : FrameBuffer) (row col : Nat) : Option (Fin fb.size.pixelCount) :=
  if h : row < fb.size.height ∧ col < fb.size.width then
    some ⟨row * fb.size.width + col, index_lt h.1 h.2⟩
  else none

/-- Whether a pixel is lit; outside the grid none is. -/
def lit (fb : FrameBuffer) (row col : Nat) : Bool :=
  match fb.index? row col with
  | some i => fb.cells[i]
  | none => false

def litCount (fb : FrameBuffer) : Nat :=
  fb.cells.toList.count true

/-- Four bytes a pixel, row by row. -/
def buffer (fb : FrameBuffer) : List UInt8 :=
  fb.pixels.toList.flatMap Color.bytes

def clearDirty (fb : FrameBuffer) : FrameBuffer :=
  { fb with dirty := false }

/-- Holds a key down; keys have four bits. -/
def pressKey (fb : FrameBuffer) (key : UInt8) : FrameBuffer :=
  { fb with key := some (key &&& 0xF) }

theorem toNat_and_fifteen (key : UInt8) : (key &&& 0xF).toNat = key.toNat % 16 :=
  (UInt8.toNat_and key 0xF).trans (Nat.and_two_pow_sub_one_eq_mod key.toNat 4)

def releaseKey (fb : FrameBuffer) : FrameBuffer :=
  { fb with key := none }

def pixel (fb : FrameBuffer) (row col : Nat) : Except DisplayError Bool :=
  match fb.index? row col with
  | some i => .ok fb.cells[i]
  | none => .error (.outOfBounds row col)

/-- The colour that a pixel shows. -/
@[inline] def shade (fb : FrameBuffer) (lit : Bool) : Color :=
  if lit then fb.foreground else fb.background

def setPixel (fb : FrameBuffer) (row col : Nat) (lit : Bool) :
    Except DisplayError Unit × FrameBuffer :=
  match fb.index? row col with
  | some i =>
    (.ok (), { fb with
      cells := fb.cells.set i lit
      pixels := fb.pixels.set i (fb.shade lit) })
  | none => (.error (.outOfBounds row col), fb)

/-- Asks for a redraw. -/
def refresh (fb : FrameBuffer) : FrameBuffer :=
  { fb with dirty := true, refreshes := fb.refreshes + 1 }

instance : Display FrameBuffer where
  size fb := fb.size
  readPixel fb row col := (fb.pixel row col, fb)
  setPixel := setPixel
  refresh fb := (.ok (), fb.refresh)
  pollKey fb := (fb.key, fb)

@[simp] theorem size_setPixel (fb : FrameBuffer) (row col : Nat) (lit : Bool) :
    (fb.setPixel row col lit).2.size = fb.size := by
  unfold setPixel
  split <;> rfl

@[simp] theorem key_setPixel (fb : FrameBuffer) (row col : Nat) (lit : Bool) :
    (fb.setPixel row col lit).2.key = fb.key := by
  unfold setPixel
  split <;> rfl

end FrameBuffer

end Chip8
