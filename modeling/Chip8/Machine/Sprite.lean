import Chip8.Machine.Basic

/-!
Drawing. A sprite is a list of dots, in the order in which they are drawn: row by row, and in
a row from the highest bit of its byte to the lowest. A lit dot toggles its pixel, and drawing
reports whether it put out a pixel that was lit.
-/

namespace Chip8

/-- A pixel that a sprite touches, and whether it toggles it. -/
structure Dot where
  row : Nat
  col : Nat
  lit : Bool
  deriving DecidableEq, Repr

namespace Dot

/-- The eight dots of one row of a sprite, from column `col` on and around the right edge. -/
def ofByte (data : UInt8) (row col width : Nat) : List Dot :=
  (List.range 8).map fun bit =>
    { row, col := (col + bit) % width, lit := data.toNat.testBit (7 - bit) }

end Dot

namespace Machine

variable {D : Type}

/-- The dots of a sprite of `n` rows at the coordinates in VX and VY, taken modulo the size of
the display. Row `k` comes from the byte at I plus `k`. -/
def spriteDots (m : Machine D) (x y n : Nibble) : List Dot :=
  let col := (m.reg x).toNat % m.size.width
  let base := (m.reg y).toNat % m.size.height
  (List.range n).flatMap fun k =>
    match m.compat.spriteRow base k m.size.height with
    | none => []
    | some row => Dot.ofByte (m.memory.read (m.index + UInt16.ofNat k)) row col m.size.width

end Machine

/-- Toggles the pixels of the dots one after the other, up to the first that the display
refuses. `hit` says whether a lit pixel was put out so far. -/
def plot {D : Type} [Display D] (display : D) (hit : Bool) :
    List Dot → Except DisplayError Unit × Bool × D
  | [] => (.ok (), hit, display)
  | dot :: dots =>
    match Display.readPixel display dot.row dot.col with
    | (.error e, display) => (.error e, hit, display)
    | (.ok before, display) =>
      match Display.setPixel display dot.row dot.col (before ^^ dot.lit) with
      | (.error e, display) => (.error e, hit, display)
      | (.ok (), display) => plot display (hit || (before && dot.lit)) dots

/-- The pixels of a grid, row by row. -/
def DisplaySize.positions (size : DisplaySize) : List (Nat × Nat) :=
  (List.range size.height).flatMap fun row => (List.range size.width).map fun col => (row, col)

/-- Puts out pixels one after the other, up to the first that the display refuses. -/
def wipe {D : Type} [Display D] (display : D) :
    List (Nat × Nat) → Except DisplayError Unit × D
  | [] => (.ok (), display)
  | (row, col) :: rest =>
    match Display.setPixel display row col false with
    | (.error e, display) => (.error e, display)
    | (.ok (), display) => wipe display rest

end Chip8
