import Chip8.Frontend.Basic
import Chip8.Log
import Chip8.Terminal.Console
import Chip8.Terminal.Picture
import Chip8.Text.Quoted

/-!
A display in a terminal. It draws the grid with half blocks, rings the bell for a tone, and
takes the keys of the keyboard. A terminal says when a key is pressed and never when it is
released, so a key counts as held for a while after it was pressed.
-/

namespace Chip8

structure Terminal where
  frame : FrameBuffer
  console : Console := {}
  /-- The key that was pressed last, and when. -/
  held : Option (UInt8 × Nat) := none
  /-- Whether the user asked to stop. -/
  quit : Bool := false
  /-- Whether the terminal still has to be restored. -/
  active : Bool := true
  log : Array LogLine := #[]

namespace Terminal

/-- How long a key counts as held, in nanoseconds. -/
def holdTime : Nat := 150000000

/-- Takes over the screen. -/
def setUp : List Command := [.enterScreen, .hideCursor, .clear]

/-- Gives the screen back. -/
def restore : List Command := [.resetColors, .showCursor, .leaveScreen]

/-- Passes a result on; if it is an error, something is undone before. What goes wrong with
that is logged only. -/
def rollback {m : Type → Type} [Monad m] {α : Type} (result : Except String α)
    (undo : m (Except String Unit)) : m (Except String α × List LogLine) := do
  match result with
  | .ok a => return (.ok a, [])
  | .error e =>
    match ← undo with
    | .ok () => return (.error e, [])
    | .error reason => return (.error e, [⟨.warn, "failed to undo terminal setup: " ++ reason⟩])

/-- Takes over a console. If the screen cannot be had, the mode is what it was before. -/
def new (size : DisplaySize) (foreground background : Color) :
    StateM Console (Except String Terminal × List LogLine) := do
  modify Console.enterRaw
  let answer ← Console.write setUp
  let (answer, log) ← rollback answer do
    modify Console.leaveRaw
    return .ok ()
  let console ← get
  return (answer.map fun () => { frame := .new size foreground background, console }, log)

/-- What a key does. One that stands for no key of the keypad is logged. -/
def handleKey (t : Terminal) (e : KeyEvent) : Terminal :=
  if e.asksToQuit then { t with quit := true }
  else match e.key with
    | .escape | .other => t
    | .char c =>
      match Keypad.key? c with
      | none => { t with log := t.log.push ⟨.debug, "unmapped key " ++ Text.quoteChar c⟩ }
      | some key =>
        match e.action with
        | .release => if t.held.any (·.1 = key) then { t with held := none } else t
        | .press | .again => { t with held := some (key, t.console.now) }

/-- Takes the keys that were typed until now. -/
def readKeys (t : Terminal) : Terminal :=
  let (events, console) := t.console.readKeys
  events.foldl handleKey { t with console }

/-- The key that was pressed last, unless that was too long ago; then it is forgotten. -/
def heldKey (t : Terminal) : Option UInt8 × Terminal :=
  match t.held with
  | none => (none, t)
  | some (key, pressed) =>
    if t.console.now - pressed < holdTime then (some key, t) else (none, { t with held := none })

def pollKey (t : Terminal) : Option UInt8 × Terminal :=
  t.readKeys.heldKey

def quitRequested (t : Terminal) : Bool × Terminal :=
  let t := t.readKeys
  (t.quit, t)

def setPixel (t : Terminal) (row col : Nat) (lit : Bool) : Except DisplayError Unit × Terminal :=
  let (answer, frame) := t.frame.setPixel row col lit
  (answer, { t with frame })

/-- Writes to the console. -/
def write (t : Terminal) (commands : List Command) : Except String Unit × Terminal :=
  let (answer, console) := t.console.write commands
  (answer, { t with console })

/-- Draws the picture if the grid asks for it. -/
def present (t : Terminal) : Except String Unit × Terminal :=
  if t.frame.dirty then
    match t.write (Picture.commands t.frame) with
    | (.ok (), t) => (.ok (), { t with frame := t.frame.clearDirty })
    | failed => failed
  else (.ok (), t)

/-- A tone is one ring of the bell. -/
def setTone (on : Bool) (t : Terminal) : Except String Unit × Terminal :=
  if on then t.write [.bell] else (.ok (), t)

/-- Gives screen and mode back, once. -/
def terminate (t : Terminal) : Terminal :=
  if t.active then
    match { t with active := false }.write restore with
    | (answer, t) =>
      let log := match answer with
        | .ok () => t.log
        | .error reason => t.log.push ⟨.warn, "failed to restore terminal screen: " ++ reason⟩
      { t with log, console := t.console.leaveRaw }
  else t

/-- Lets time pass. -/
def await (now : Nat) (t : Terminal) : Terminal :=
  { t with console := { t.console with now } }

instance : Display Terminal where
  size t := t.frame.size
  readPixel t row col := (t.frame.pixel row col, t)
  setPixel := setPixel
  refresh t := (.ok (), { t with frame := t.frame.refresh })
  pollKey := pollKey
  terminate := terminate

instance : Frontend Terminal where
  await := await
  quitRequested := quitRequested
  present := present
  setTone := setTone

@[simp] theorem terminate_terminate (t : Terminal) : t.terminate.terminate = t.terminate := by
  have h : t.terminate.active = false := by
    unfold terminate
    split <;> simp_all [write]
  rw [terminate, h]
  simp

end Terminal

end Chip8
