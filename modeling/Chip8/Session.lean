import Chip8.CommandLine.Reader
import Chip8.CommandLine.Usage
import Chip8.Config.Load
import Chip8.Frontend.Runner
import Chip8.Terminal.Basic

/-!
A session, from the command line to the end of the run. First comes a plan: everything that is
read and checked before the display is touched. Then the plan is played on a console.
-/

namespace Chip8

/-- Why a session ends other than by the user's wish. -/
inductive Failure
  | arguments (e : ArgumentError)
  | load (e : LoadError)
  | scaleOutOfRange
  | speedOutOfRange
  /-- This program has no window to draw on. -/
  | noWindow
  | machine (e : Error)
  /-- The console failed. -/
  | console (reason : String)
  deriving DecidableEq, Repr

namespace Failure

def message : Failure → String
  | arguments e => e.message
  | load e => e.context
  | scaleOutOfRange => "Display scaling factor must be between [1-100]"
  | speedOutOfRange => "Instructions per second [1-1000000]"
  | noWindow => "sdl display requested but this build lacks the `sdl` feature"
  | machine e => e.message
  | console reason => reason

/-- What the system is told. -/
def exitCode : Failure → Nat
  | arguments e => if e.isAnswer then 0 else 2
  | _ => 1

/-- The line for the user. The command line has words of its own. -/
def errorLine? : Failure → Option String
  | arguments _ => none
  | failure => some ("Error: " ++ failure.message)

end Failure

/-- What a session is going to do. -/
structure Plan where
  config : Config
  blueprint : Blueprint

namespace Plan

/-- The ranges of the two numbers that make no sense without bounds. -/
def checkRanges (c : Config) : Except Failure Unit :=
  if c.scale < 1 ∨ 100 < c.scale then .error .scaleOutOfRange
  else if c.instructionsPerSecond < 1 ∨ 1000000 < c.instructionsPerSecond then
    .error .speedOutOfRange
  else .ok ()

/-- What is logged when the display is chosen. -/
def displayLine (c : Config) : LogLine :=
  let size := c.displaySize
  ⟨.info, s!"{c.io.title} display, {size.width}x{size.height}"⟩

variable {m : Type → Type} [Monad m] [FileSystem m]

/-- A plan with this configuration. The files that it names are read, so that one that cannot
be read is found before the display is touched. -/
def ofConfig (c : Config) : m (Except Failure Plan × List LogLine) := do
  match checkRanges c with
  | .error e => return (.error e, [])
  | .ok () =>
    match ← c.blueprint with
    | .error e => return (.error (.load e), [])
    | .ok blueprint =>
      match c.io with
      | .sdl => return (.error .noWindow, [displayLine c])
      | .terminal => return (.ok { config := c, blueprint }, [displayLine c])

/-- The plan for what was said on the command line. -/
def ofArguments (env : Environment) (args : Arguments) :
    m (Except Failure Plan × List LogLine) := do
  match ← Config.load env args.config with
  | (.error e, log) => return (.error (.load e), log)
  | (.ok config, log) =>
    let (plan, more) ← ofConfig (args.apply config)
    return (plan, log ++ more)

/-- The plan for the words of a command line. -/
def ofWords (env : Environment) (words : List String) :
    m (Except Failure Plan × List LogLine) := do
  match Arguments.parse words with
  | .error e => return (.error (.arguments e), [])
  | .ok args => ofArguments env args

/-- The terminal that a plan is played on, and the console if there is none. -/
def terminal (p : Plan) : StateM Console (Except String Terminal × List LogLine) :=
  Terminal.new p.config.displaySize p.config.foreground p.config.background

/-- The time for one instruction, in nanoseconds. -/
def turnTime (p : Plan) : Nat :=
  1000000000 / p.config.instructionsPerSecond.toNat

/-- A clock that is never late. -/
def clock (p : Plan) (k : Nat) : Instants :=
  ⟨k * p.turnTime, k * p.turnTime⟩

/-- How a run that ended counts. -/
def result : Ending → Except Failure Unit
  | .quit => .ok ()
  | .unbuilt e | .halted e => .error (.machine e)
  | .lost reason => .error (.console reason)

/-- What is left of a session: its result if it ended, the console, and the log. -/
structure Outcome where
  result : Option (Except Failure Unit)
  console : Console
  log : Array LogLine

/-- Plays a plan for at most `turns` turns. -/
def play (p : Plan) (around : Blueprint.Surroundings) (turns : Nat) (console : Console) :
    Outcome :=
  match p.terminal.run console with
  | ((.error reason, log), console) =>
    { result := some (.error (.console reason)), console, log := log.toArray }
  | ((.ok t, log), _) =>
    let (ending, t, more) := Runner.launch p.blueprint around p.clock turns t
    let t := t.terminate
    { result := ending.map result, console := t.console, log := log.toArray ++ t.log ++ more }

end Plan

end Chip8
