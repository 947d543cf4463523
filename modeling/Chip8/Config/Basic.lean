import Chip8.CallStack
import Chip8.Color
import Chip8.Compatibility
import Chip8.Display.Basic

/-! The configuration of the program, and what it says about the machine to build. -/

namespace Chip8

/-- What the program draws on. -/
inductive Backend
  | terminal
  /-- A window of its own, which not every build has. -/
  | sdl
  deriving DecidableEq, Repr

/-- The backend of a name. -/
def Backend.ofName? : String → Option Backend
  | "terminal" => some .terminal
  | "sdl" => some .sdl
  | _ => none

/-- The name in messages. -/
def Backend.title : Backend → String
  | terminal => "Terminal"
  | sdl => "Sdl"

structure Config where
  io : Backend := .terminal
  /-- The name of a built-in font, or the path of a font file. -/
  font : String := "chip48"
  foreground : Color := .white
  background : Color := .black
  instructionsPerSecond : UInt32 := 700
  cosmacCompatible : Bool := false
  verticalWrapping : Bool := false
  /-- Whether to use the large display; the mode decides if nothing is said. -/
  extendedDisplay : Option Bool := none
  /-- The path of the program; without one the built-in program runs. -/
  program : Option String := none
  /-- Window pixels a side of one pixel. -/
  scale : UInt32 := 10
  seed : Option UInt64 := none
  stackSize : UInt64 := 16
  deriving DecidableEq, Repr

namespace Config

/-- The large display, unless the first interpreter is followed or something else is said. -/
def displaySize (c : Config) : DisplaySize :=
  if c.extendedDisplay.getD (!c.cosmacCompatible) then .extended else .standard

def compatibility (c : Config) : Compatibility :=
  .ofFlags c.cosmacCompatible c.verticalWrapping

end Config

end Chip8
