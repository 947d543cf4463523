import Chip8.Text.Hex

/-!
Why a machine cannot be built or a step cannot be completed, and the words for it.
-/

namespace Chip8

/-- Everything that can stop a machine from being built or from executing an instruction. -/
inductive Error
  /-- A return with no return address on the call stack. -/
  | stackUnderflow
  /-- A call with the call stack full; `depth` addresses are on it. -/
  | stackOverflow (depth : Nat)
  /-- The display refused a pixel. -/
  | outOfBounds (row col : Nat)
  | programTooLarge (size limit : Nat)
  | fontTooLarge (size limit : Nat)
  /-- A display without rows or without columns. -/
  | invalidDisplaySize (width height : Nat)
  /-- A field of an opcode that does not exist. -/
  | fieldOutOfRange (index limit : UInt8)
  /-- A word that is no instruction, fetched from `addr`. -/
  | unknownOpcode (opcode addr : UInt16)
  /-- The display failed for a reason of its own. -/
  | display (reason : String)
  deriving DecidableEq, Repr

/-- What an adapter reports when it cannot do what the machine asks. -/
inductive DisplayError
  | outOfBounds (row col : Nat)
  /-- The device behind the adapter failed. -/
  | device (reason : String)
  deriving DecidableEq, Repr

namespace Error

def message : Error → String
  | stackUnderflow => "stack underflow: return executed with an empty call stack"
  | stackOverflow depth =>
    s!"stack overflow: call executed with {depth} return addresses on the stack"
  | outOfBounds row col => s!"pixel access out of bounds at row {row}, column {col}"
  | programTooLarge size limit =>
    s!"program is too large ({size} bytes), max size is {limit} bytes"
  | fontTooLarge size limit => s!"font is too large ({size} bytes), max size is {limit} bytes"
  | invalidDisplaySize width height => s!"display size {width}x{height} is invalid"
  | fieldOutOfRange index limit =>
    s!"opcode field index {index.toNat} is out of range (max {limit.toNat})"
  | unknownOpcode opcode addr =>
    "unknown opcode 0x" ++ Text.upperHex 4 opcode.toNat ++ " at 0x"
      ++ Text.upperHex 3 addr.toNat
  | display reason => "display backend failure: " ++ reason

end Error

namespace DisplayError

def message : DisplayError → String
  | outOfBounds row col => s!"pixel ({row}, {col}) is outside the display grid"
  | device reason => reason

/-- A step passes a failure of its display on as an error of its own. -/
def toError : DisplayError → Error
  | outOfBounds row col => .outOfBounds row col
  | device reason => .display reason

end DisplayError

end Chip8
