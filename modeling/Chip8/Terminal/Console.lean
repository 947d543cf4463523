import Chip8.Terminal.Command
import Chip8.Terminal.InputQueue
import Chip8.Terminal.Typed

/-!
The console that a terminal display runs on, from the outside: what the user types and when,
what was written, and in which mode it is. All of it is a value, and so is time.
-/

namespace Chip8

structure Console where
  /-- The instant, in nanoseconds. -/
  now : Nat := 0
  /-- The bytes that are typed and the instants at which that happens, in order, without those that
  the terminal took already. -/
  typed : List (Nat × UInt8) := []
  /-- What the terminal took. -/
  input : InputQueue := {}
  /-- Bytes that were read and begin an event. -/
  begun : List UInt8 := []
  /-- Events that were read and are to be looked at the next time. -/
  waiting : List TerminalEvent := []
  /-- Whether the terminal is in raw mode: it hands on every byte at once and shows none. -/
  raw : Bool := false
  /-- The mode to go back to, if raw mode was entered. -/
  found : Option Bool := none
  /-- What was written. -/
  output : Array Command := #[]
  /-- When writing begins to fail, and why. -/
  fault : Option (Nat × String) := none

namespace Console

/-- The bytes of a text, all typed at the present instant. -/
def type (c : Console) (bytes : List UInt8) : Console :=
  { c with typed := c.typed ++ bytes.map (c.now, ·) }

/-- Lets the terminal take the bytes that were typed up to now. -/
def take (c : Console) : Console :=
  let (now, later) := c.typed.span (·.1 ≤ c.now)
  let bytes := now.map Prod.snd
  { c with
    typed := later
    input := if c.raw then c.input.push bytes else bytes.foldl InputQueue.edit c.input }

/-- Enters raw mode, unless that was done before. -/
def enterRaw (c : Console) : Console :=
  match c.found with
  | some _ => c
  | none =>
    let c := c.take
    { c with raw := true, found := some c.raw, input := c.input.enterRaw }

/-- Goes back to the mode from before raw mode was entered. -/
def leaveRaw (c : Console) : Console :=
  match c.found with
  | none => c
  | some raw =>
    let c := c.take
    { c with raw, found := none, input := if raw then c.input.enterRaw else c.input.leaveRaw }

/-- Going back undoes entering raw mode. -/
theorem raw_leaveRaw_enterRaw (c : Console) (h : c.found = none) :
    c.enterRaw.leaveRaw.raw = c.raw ∧ c.enterRaw.leaveRaw.found = none := by
  simp [enterRaw, leaveRaw, take, h]

/-- The bytes of a list as they are read, so many at once. -/
def chunks (bytes : List UInt8) : List (List UInt8) :=
  if bytes = [] then [] else bytes.take Typed.chunkSize :: chunks (bytes.drop Typed.chunkSize)
termination_by bytes.length
decreasing_by
  have := List.length_pos_iff.2 ‹_›
  simp only [List.length_drop, Typed.chunkSize]
  omega

/-- Looks at what the terminal announced: reads up to the first event, and what was read along
with it. -/
def readEvents (c : Console) : List TerminalEvent × Console :=
  let c := c.take
  if c.input.announced then
    let (events, begun, lines) :=
      Typed.readChunks c.found.isSome c.begun (c.input.lines.flatMap chunks)
    (events, { c with begun, input := { c.input with lines, announced := false } })
  else ([], c)

/-- Reads the keys that were typed up to now. A report ends this: what stands behind it is left
for the next time, and nothing is read as long as something is left. -/
def readKeys (c : Console) : List KeyEvent × Console :=
  match Typed.splitAtReport c.waiting with
  | (keys, some waiting) => (keys, { c with waiting })
  | (keys, none) =>
    let (events, c) := c.readEvents
    let (more, waiting) := Typed.splitAtReport events
    (keys ++ more, { c with waiting := waiting.getD [] })

/-! ### What is written -/

/-- Why nothing can be written, if so. -/
def fault? (c : Console) : Option String :=
  (c.fault.filter (·.1 ≤ c.now)).map Prod.snd

/-- Writes commands: all of them, or none. -/
def write (commands : List Command) (c : Console) : Except String Unit × Console :=
  match c.fault? with
  | some reason => (.error reason, c)
  | none => (.ok (), { c with output := c.output ++ commands })

end Console

end Chip8
