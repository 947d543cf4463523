import Chip8.Frontend.Basic
import Chip8.Machine.Build
import Chip8.Machine.Step

/-!
The loop that runs a machine on a front end. A turn of it waits until it is due, asks whether to
stop, takes one step, turns the tone on or off when the sound timer started or ran out, and draws
at most once a frame. The instants of the turns come from outside.
-/

namespace Chip8

/-- Nanoseconds between two pictures. -/
def frameTime : Nat := 1000000 / 60 * 1000

/-- When a turn looks at the clock, in nanoseconds since the run began: before its step, and
before it draws. -/
structure Instants where
  stepped : Nat
  shown : Nat

/-- Why a run ended. -/
inductive Ending
  /-- The user asked for it. -/
  | quit
  /-- No machine could be built. -/
  | unbuilt (e : Error)
  /-- A step failed. -/
  | halted (e : Error)
  /-- The front end could not sound or draw. -/
  | lost (reason : String)
  deriving DecidableEq, Repr

/-- A machine under way. -/
structure Runner (D : Type) where
  machine : Machine D
  /-- The instant at which the run began. -/
  start : Nat := 0
  /-- Whether the tone was last turned on. -/
  tone : Bool := false
  /-- The next picture is not drawn earlier than this, counted from the start. -/
  nextFrame : Nat := 0
  log : Array LogLine := #[]

namespace Runner

variable {D : Type} [Frontend D]

/-- The end of a turn: draws if it is time to. -/
def draw (shown : Nat) (r : Runner D) : Option Ending × Runner D :=
  if shown < r.nextFrame then (none, r)
  else
    let (answer, display) := Frontend.present r.machine.display
    let r := { r with machine := { r.machine with display }, nextFrame := shown + frameTime }
    match answer with
    | .error reason => (some (.lost reason), r)
    | .ok () => (none, r)

/-- The part of a turn after its step: changes the tone if need be, then draws. -/
def sound (shown : Nat) (r : Runner D) : Option Ending × Runner D :=
  let on := r.machine.soundActive
  if on = r.tone then r.draw shown
  else
    let (answer, display) := Frontend.setTone on r.machine.display
    let r := { r with machine := { r.machine with display }, tone := on }
    match answer with
    | .error reason => (some (.lost reason), r)
    | .ok () => r.draw shown

/-- What the loop logs about a step that failed; `m` is the machine after it. -/
def haltLine (m : Machine D) (e : Error) : LogLine :=
  ⟨.error, "halted near 0x" ++ Text.paddedHex 3 m.pc.toNat ++ ": " ++ e.message⟩

/-- One turn of the loop; an ending if it was the last. -/
def turn (instants : Instants) (r : Runner D) : Option Ending × Runner D :=
  let now := r.start + instants.stepped
  let (quit, display) := Frontend.quitRequested (Frontend.await now r.machine.display)
  let r := { r with machine := { r.machine with display } }
  if quit then
    (some .quit, { r with log := r.log.push ⟨.info, "termination requested"⟩ })
  else
    let log := r.log ++ r.machine.stepLog
    match r.machine.stepAt now with
    | (.error e, machine) =>
      (some (.halted e), { r with machine, log := log.push (haltLine machine e) })
    | (.ok (), machine) => sound instants.shown { r with machine, log }

/-- At most `turns` turns, the first of them at `clock k`; `none` if the run goes on. -/
def run (clock : Nat → Instants) : (turns k : Nat) → Runner D → Option Ending × Runner D
  | 0, _, r => (none, r)
  | turns + 1, k, r =>
    match r.turn (clock k) with
    | (some ending, r) => (some ending, r)
    | (none, r) => run clock turns (k + 1) r

/-- Builds a machine around a front end, runs it, and lets the front end go. A front end around
which no machine can be built is handed back as it was. -/
def launch (b : Blueprint) (around : Blueprint.Surroundings) (clock : Nat → Instants)
    (turns : Nat) (display : D) : Option Ending × D × Array LogLine :=
  match b.build around display with
  | .error e => (some (.unbuilt e), display, #[])
  | .ok machine =>
    let log := (b.log machine.size).toArray
    let (ending, r) := run clock turns 0 { machine, start := around.now, log }
    (ending, r.machine.terminate.display, r.log)

end Runner

end Chip8
