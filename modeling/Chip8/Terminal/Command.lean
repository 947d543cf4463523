import Chip8.Color

/-! What a terminal is told, and the text that tells it. -/

namespace Chip8

inductive Command
  /-- Leaves the screen as it is and shows an empty one. -/
  | enterScreen
  /-- Shows the screen again that was there before. -/
  | leaveScreen
  | hideCursor
  | showCursor
  | clear
  | foreground (c : Color)
  | background (c : Color)
  /-- Goes back to the colours of the user. -/
  | resetColors
  /-- Writes into a line, counted from zero, from its beginning. -/
  | line (row : UInt16) (cells : List Char)
  | bell
  deriving DecidableEq, Repr

namespace Command

/-- A sequence that begins with an escape and an opening bracket. -/
def sequence (body : String) : String :=
  "\x1b[" ++ body

/-- The parts of a colour, as a sequence writes them. -/
def parts (c : Color) : String :=
  s!"{c.r.toNat};{c.g.toNat};{c.b.toNat}"

def text : Command → String
  | enterScreen => sequence "?1049h"
  | leaveScreen => sequence "?1049l"
  | hideCursor => sequence "?25l"
  | showCursor => sequence "?25h"
  | clear => sequence "2J"
  | foreground c => sequence ("38;2;" ++ parts c ++ "m")
  | background c => sequence ("48;2;" ++ parts c ++ "m")
  | resetColors => sequence "0m"
  | line row cells => sequence (s!"{row.toNat + 1};1H" ++ String.ofList cells)
  | bell => "\x07"

/-- The text of commands, one after the other. -/
def textOf (commands : List Command) : String :=
  String.join (commands.map text)

end Command

end Chip8
