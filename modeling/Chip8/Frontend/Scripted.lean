import Chip8.Display.Bench
import Chip8.Frontend.Basic

/-!
A front end that follows a script: its user quits at a given question and presses and releases
keys at the ones before. It records what the loop makes it do, and can fail to sound or draw.
-/

namespace Chip8

structure Scripted where
  bench : Bench
  /-- How many times the user answers that the run shall go on. -/
  patience : Nat := 0
  /-- What the user does when asked: presses a key, or releases it. -/
  keys : Array (Option UInt8) := #[]
  toneFault : Option String := none
  presentFault : Option String := none
  /-- How often the user was asked. -/
  checks : Nat := 0
  /-- What the tone was set to, one after the other. -/
  tones : Array Bool := #[]
  /-- How often the grid was to be drawn. -/
  presents : Nat := 0

namespace Scripted

/-- Holds the key that the script has for question `k`; past its end nothing changes. -/
def pressKey (s : Scripted) (k : Nat) : Scripted :=
  match s.keys[k]? with
  | none => s
  | some none => { s with bench := { s.bench with frame := s.bench.frame.releaseKey } }
  | some (some key) => { s with bench := { s.bench with frame := s.bench.frame.pressKey key } }

def quitRequested (s : Scripted) : Bool × Scripted :=
  let asked := { s with checks := s.checks + 1 }
  if s.checks < s.patience then (false, asked.pressKey s.checks) else (true, asked)

/-- What a call answers that fails for the given reason, if there is one. -/
def answer : Option String → Except String Unit
  | some reason => .error reason
  | none => .ok ()

def present (s : Scripted) : Except String Unit × Scripted :=
  (answer s.presentFault, { s with presents := s.presents + 1 })

def setTone (on : Bool) (s : Scripted) : Except String Unit × Scripted :=
  (answer s.toneFault, { s with tones := s.tones.push on })

instance : Display Scripted where
  size s := Display.size s.bench
  readPixel s row col :=
    let (answer, bench) := Display.readPixel s.bench row col
    (answer, { s with bench })
  setPixel s row col lit :=
    let (answer, bench) := Display.setPixel s.bench row col lit
    (answer, { s with bench })
  refresh s :=
    let (answer, bench) := Display.refresh s.bench
    (answer, { s with bench })
  pollKey s :=
    let (key, bench) := Display.pollKey s.bench
    (key, { s with bench })
  terminate s := { s with bench := Display.terminate s.bench }

instance : Frontend Scripted where
  quitRequested := quitRequested
  present := present
  setTone := setTone

end Scripted

/-- A front end that follows a script and has no sound. -/
structure Mute where
  script : Scripted

namespace Mute

instance : Display Mute where
  size s := Display.size s.script
  readPixel s row col :=
    let (answer, script) := Display.readPixel s.script row col
    (answer, { script })
  setPixel s row col lit :=
    let (answer, script) := Display.setPixel s.script row col lit
    (answer, { script })
  refresh s :=
    let (answer, script) := Display.refresh s.script
    (answer, { script })
  pollKey s :=
    let (key, script) := Display.pollKey s.script
    (key, { script })
  terminate s := { script := Display.terminate s.script }

instance : Frontend Mute where
  quitRequested s :=
    let (quit, script) := s.script.quitRequested
    (quit, { script })
  present s :=
    let (answer, script) := s.script.present
    (answer, { script })

end Mute

end Chip8
