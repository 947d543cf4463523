import Chip8.CallStack
import Chip8.Compatibility
import Chip8.Display.Basic
import Chip8.Instruction.Basic
import Chip8.Memory
import Chip8.Random
import Chip8.TimerGate
import Chip8.Timers

/-!
The machine: its state, and the small operations out of which instructions are made.
-/

namespace Chip8

/-- A machine that draws on a display of type `D`. -/
structure Machine (D : Type) where
  /-- The general registers V0 to VF. -/
  regs : Vector UInt8 16
  /-- The index register I. -/
  index : UInt16
  /-- The address of the next instruction. -/
  pc : UInt16
  stack : CallStack
  timers : Timers
  /-- Ticks the timers by the clock; `none` when they are ticked from outside. -/
  gate : Option TimerGate
  memory : Memory
  display : D
  /-- The size that the display reported when the machine was built. -/
  size : DisplaySize
  compat : Compatibility
  random : Random

/-- Where the glyphs of the font begin. -/
def fontAddr : UInt16 := 0x050

/-- Where the program begins. -/
def programAddr : UInt16 := 0x200

namespace Machine

variable {D : Type}

/-- What a step hands back: how it ended, and the machine with every effect that was applied
until then. -/
abbrev Outcome (D : Type) := Except Error Unit × Machine D

/-- A step that ends well. -/
def done (m : Machine D) : Outcome D :=
  (.ok (), m)

/-- A step that ends in an error. -/
def fail (m : Machine D) (e : Error) : Outcome D :=
  (.error e, m)

/-- The register that arithmetic and drawing report in. -/
def flag : Nibble := 0xF

def reg (m : Machine D) (x : Nibble) : UInt8 :=
  m.regs[x]

def setReg (m : Machine D) (x : Nibble) (value : UInt8) : Machine D :=
  { m with regs := m.regs.set x value }

/-- Result first, flag last: when X is F, the flag is what remains. -/
def setRegFlag (m : Machine D) (x : Nibble) (value flagValue : UInt8) : Machine D :=
  (m.setReg x value).setReg flag flagValue

/-- Moves on to the next word, from the end of memory to its beginning. -/
def advance (m : Machine D) : Machine D :=
  { m with pc := address (m.pc + 2) }

/-- Leaves out the next word if `condition` holds. -/
def skipIf (m : Machine D) (condition : Bool) : Machine D :=
  if condition then m.advance else m

/-- Sixtieths of a second that a driver counts itself. -/
def tick (m : Machine D) : Machine D :=
  { m with timers := m.timers.tick }

/-- Lets the gate count the ticks due at `now`. -/
def tickUntil (now : Nat) (m : Machine D) : Machine D :=
  match m.gate with
  | none => m
  | some gate =>
    match gate.dueTicks? now with
    | none => m
    | some (due, gate) => { m with gate := some gate, timers := m.timers.tickN due }

/-- Whether a tone should be playing. -/
def soundActive (m : Machine D) : Bool :=
  m.timers.soundActive

/-- Tells the display to give up what it holds. -/
def terminate [Display D] (m : Machine D) : Machine D :=
  { m with display := Display.terminate m.display }

@[simp] theorem reg_setReg_self (m : Machine D) (x : Nibble) (v : UInt8) :
    (m.setReg x v).reg x = v := by
  simp [reg, setReg]

theorem reg_setReg_of_ne (m : Machine D) {x y : Nibble} (h : x ≠ y) (v : UInt8) :
    (m.setReg x v).reg y = m.reg y := by
  simp [reg, setReg, Fin.val_inj, h]

end Machine

end Chip8
