import Chip8.Font.Builtin
import Chip8.Log
import Chip8.Machine.Basic

/-!
Building a machine. A blueprint holds everything that can be chosen beforehand; the display
is what a machine is built around.
-/

namespace Chip8

/-- The longest program: what is left of memory from `programAddr` on. -/
def maxProgramSize : Nat := memorySize - programAddr.toNat

/-- Both timers start here unless told otherwise, so that a program which never sets them does
not find them expired. -/
def defaultTimerValue : UInt8 := 255

structure Blueprint where
  program : List UInt8 := []
  font : List UInt8 := Font.Builtin.bytes .chip48
  /-- The seed of the random generator; without one its key comes from outside. -/
  seed : Option UInt64 := none
  compat : Compatibility := {}
  stackSize : Nat := defaultStackSize
  timers : Timers := ⟨defaultTimerValue, defaultTimerValue⟩
  /-- Whether steps tick the timers by the clock. -/
  gated : Bool := true

namespace Blueprint

/-- Why a machine cannot be built for a display of this size: a display without pixels comes
before a font that is too large, and that before a program that is. -/
def check (b : Blueprint) (size : DisplaySize) : Except Error Unit :=
  if size.width = 0 ∨ size.height = 0 then
    .error (.invalidDisplaySize size.width size.height)
  else if Font.maxSize < b.font.length then
    .error (.fontTooLarge b.font.length Font.maxSize)
  else if maxProgramSize < b.program.length then
    .error (.programTooLarge b.program.length maxProgramSize)
  else .ok ()

/-- Memory with the font and the program in place. -/
def image (b : Blueprint) : Memory :=
  (Memory.blank.load fontAddr.toNat b.font).load programAddr.toNat b.program

/-- What the outside contributes to a machine when it is built. -/
structure Surroundings where
  /-- The instant. -/
  now : Nat := 0
  /-- A key for the random generator, used if no seed is chosen. -/
  key : RandomKey := .ofSeed 0

/-- The machine, before its first step. -/
def machine {D : Type} (b : Blueprint) (around : Surroundings) (display : D)
    (size : DisplaySize) : Machine D where
  regs := Vector.replicate 16 0
  index := 0
  pc := programAddr
  stack := { capacity := b.stackSize }
  timers := b.timers
  gate := if b.gated then some (.opened around.now) else none
  memory := b.image
  display
  size
  compat := b.compat
  random := { key := match b.seed with
    | some seed => .ofSeed seed
    | none => around.key }

/-- Builds a machine around `display`, whose size becomes the size of the machine's grid. -/
def build {D : Type} [Display D] (b : Blueprint) (around : Surroundings) (display : D) :
    Except Error (Machine D) :=
  (b.check (Display.size display)).map fun () =>
    b.machine around display (Display.size display)

/-- What is logged when a machine for a display of this size is built. -/
def log (b : Blueprint) (size : DisplaySize) : List LogLine :=
  [⟨.debug, s!"built machine: {b.program.length} byte program, "
    ++ s!"{size.width}x{size.height} display, " ++ b.compat.text
    ++ s!", stack depth {b.stackSize}"⟩]

end Blueprint

end Chip8
