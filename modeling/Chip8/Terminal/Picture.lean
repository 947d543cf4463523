import Chip8.Display.FrameBuffer
import Chip8.Terminal.Command

/-!
The picture of a grid in a terminal. A character is half a line wide, so one holds two pixels,
one above the other.
-/

namespace Chip8.Picture

/-- The character that shows two pixels. -/
def cell (top bottom : Bool) : Char :=
  match top, bottom with
  | true, true => '█'
  | true, false => '▀'
  | false, true => '▄'
  | false, false => ' '

/-- The pixels that a character shows. -/
def pixels (c : Char) : Bool × Bool :=
  (c = '█' || c = '▀', c = '█' || c = '▄')

theorem pixels_cell (top bottom : Bool) : pixels (cell top bottom) = (top, bottom) := by
  cases top <;> cases bottom <;> rfl

/-- Line `k`: rows `2 * k` and `2 * k + 1`. Below the last row no pixel is lit. -/
def line (fb : FrameBuffer) (k : Nat) : List Char :=
  (List.range fb.width).map fun col => cell (fb.lit (2 * k) col) (fb.lit (2 * k + 1) col)

@[simp] theorem length_line (fb : FrameBuffer) (k : Nat) : (line fb k).length = fb.width := by
  simp [line]

/-- All lines, from the top. -/
def lines (fb : FrameBuffer) : List (List Char) :=
  (List.range ((fb.height + 1) / 2)).map (line fb)

@[simp] theorem length_lines (fb : FrameBuffer) : (lines fb).length = (fb.height + 1) / 2 := by
  simp [lines]

/-- Draws the picture in the colours of the grid. -/
def commands (fb : FrameBuffer) : List Command :=
  [.foreground fb.foreground, .background fb.background]
    ++ (lines fb).zipIdx.map (fun (cells, k) => .line (UInt16.ofNat k) cells)
    ++ [.resetColors]

end Chip8.Picture
