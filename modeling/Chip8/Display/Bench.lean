import Chip8.Display.FrameBuffer

/-!
A display on the bench: a framebuffer behind an adapter whose faults can be switched on. It may
report a size that is not the framebuffer's, refuse to be refreshed, and hand out a key that no
keypad has.
-/

namespace Chip8

structure Bench where
  frame : FrameBuffer
  /-- The size that the adapter reports. -/
  reported : DisplaySize
  /-- Why it cannot be refreshed. -/
  refreshFault : Option String := none
  /-- A byte to hand out in place of the held key. -/
  rawKey : Option UInt8 := none
  /-- How often it was told to give up what it holds. -/
  terminations : Nat := 0

namespace Bench

/-- A bench without faults. -/
def ofFrame (frame : FrameBuffer) : Bench :=
  { frame, reported := frame.size }

def setPixel (b : Bench) (row col : Nat) (lit : Bool) : Except DisplayError Unit × Bench :=
  let (answer, frame) := b.frame.setPixel row col lit
  (answer, { b with frame })

/-- A refresh that fails does not reach the framebuffer. -/
def refresh (b : Bench) : Except DisplayError Unit × Bench :=
  match b.refreshFault with
  | some reason => (.error (.device reason), b)
  | none => (.ok (), { b with frame := b.frame.refresh })

instance : Display Bench where
  size b := b.reported
  readPixel b row col := (b.frame.pixel row col, b)
  setPixel := setPixel
  refresh := refresh
  pollKey b := (b.rawKey <|> b.frame.key, b)
  terminate b := { b with terminations := b.terminations + 1 }

end Bench

end Chip8
