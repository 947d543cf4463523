import Chip8.Keypad

/-! Keys of a keyboard, and what can happen to them. -/

namespace Chip8

inductive Key
  | char (c : Char)
  | escape
  /-- Enter, tabulator, backspace, the cursor and function keys. -/
  | other
  deriving DecidableEq, Repr

inductive KeyAction
  | press
  | release
  /-- A key that is still held reports itself once more. -/
  | again
  deriving DecidableEq, Repr

structure KeyEvent where
  key : Key
  /-- Whether the control key is held, too. -/
  control : Bool := false
  action : KeyAction := .press
  deriving DecidableEq, Repr

namespace KeyEvent

/-- The escape key, or control and a lower-case `c`; whatever happens to it. -/
def asksToQuit (e : KeyEvent) : Bool :=
  e.key = .escape || (e.key = .char 'c' && e.control)

/-- The key of the keypad that it is about. -/
def keypad? (e : KeyEvent) : Option UInt8 :=
  match e.key with
  | .char c => Keypad.key? c
  | _ => none

end KeyEvent

end Chip8
