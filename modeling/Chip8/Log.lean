/-!
Log lines. What a step or a loop reports is a value, so that whoever runs it decides where
the lines go.
-/

namespace Chip8

/-- How important a log line is, least important first. -/
inductive LogLevel
  | trace | debug | info | warn | error
  deriving DecidableEq, Repr

namespace LogLevel

def name : LogLevel → String
  | .trace => "TRACE"
  | .debug => "DEBUG"
  | .info => "INFO"
  | .warn => "WARN"
  | .error => "ERROR"

/-- Position in the order of importance. -/
def rank : LogLevel → Nat
  | .trace => 0
  | .debug => 1
  | .info => 2
  | .warn => 3
  | .error => 4

end LogLevel

structure LogLine where
  level : LogLevel
  text : String
  deriving DecidableEq, Repr

/-- The level, a space, the text. -/
def LogLine.render (line : LogLine) : String :=
  s!"{line.level.name} {line.text}"

end Chip8
