import Chip8.Display.Basic

/-!
A front end: a display that a user sits in front of. Besides the calls that a machine makes, a
loop asks it whether the user wants to stop, and lets it draw and sound.
-/

namespace Chip8

class Frontend (D : Type) extends Display D where
  /-- Lets time pass until the given instant, in nanoseconds. -/
  await : (now : Nat) → D → D := fun _ d => d
  /-- Whether the user asked to stop. -/
  quitRequested : D → Bool × D
  /-- Draws the grid, if it changed since it was last drawn. -/
  present : D → Except String Unit × D
  /-- Turns the tone on or off; a front end without sound lets it be. -/
  setTone : (on : Bool) → D → Except String Unit × D := fun _ d => (.ok (), d)

end Chip8
