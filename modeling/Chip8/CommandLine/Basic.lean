import Chip8.Config.Basic
import Chip8.Text.Decimal

/-!
What can be said on the command line, and what it changes in a configuration. An option takes
one value, a switch takes none, and the path of the program stands by itself. Nothing can be
said twice.
-/

namespace Chip8

/-- What a value on the command line is for. -/
inductive Slot
  | program | config | io | font | background | foreground | scale | ips | seed | stackSize
  deriving DecidableEq, Repr

/-- What is on if it is named. -/
inductive Switch
  | cosmac | wrap | extended | debug
  deriving DecidableEq, Repr

/-- How the user knows it. -/
def Slot.name : Slot → String
  | .program => "[ROM]"
  | .config => "--config"
  | .io => "--io"
  | .font => "--font"
  | .background => "--background"
  | .foreground => "--foreground"
  | .scale => "--scale"
  | .ips => "--ips"
  | .seed => "--seed"
  | .stackSize => "--stack-size"

def Switch.name : Switch → String
  | .cosmac => "--cosmac"
  | .wrap => "--wrap"
  | .extended => "--extended"
  | .debug => "--debug"

/-- Why a command line ends the program before it begins. -/
inductive ArgumentError
  /-- A word that is no option, or a second program. -/
  | unknown (word : String)
  /-- An option at whose value nothing stands. -/
  | missing (slot : Slot)
  /-- A value that is none of those to choose from, or an empty path. -/
  | refused (slot : Slot) (value : String)
  /-- A value that is no number in range, or no colour. -/
  | invalid (slot : Slot) (value : String)
  /-- An option or a switch that was named before. -/
  | repeated (name : String)
  /-- A switch with a value. -/
  | unneeded (name : String) (value : String)
  /-- The user asked for help. -/
  | help
  /-- The user asked for the version. -/
  | version
  deriving DecidableEq, Repr

/-- What was said on the command line. -/
structure Arguments where
  program : Option String := none
  config : Option String := none
  io : Option Backend := none
  font : Option String := none
  background : Option Color := none
  foreground : Option Color := none
  scale : Option UInt32 := none
  ips : Option UInt32 := none
  seed : Option UInt64 := none
  stackSize : Option UInt64 := none
  cosmac : Bool := false
  wrap : Bool := false
  extended : Bool := false
  debug : Bool := false
  deriving DecidableEq, Repr

namespace ArgumentError

def message : ArgumentError → String
  | unknown word => s!"unexpected argument {Text.quote word}"
  | missing slot => s!"a value is required for {slot.name}"
  | refused slot value | invalid slot value =>
    s!"invalid value {Text.quote value} for {slot.name}"
  | repeated name => s!"{name} cannot be used multiple times"
  | unneeded name value => s!"unexpected value {Text.quote value} for {name}"
  | help => "help requested"
  | version => "version requested"

/-- Whether the user got what he asked for. -/
def isAnswer : ArgumentError → Bool
  | help | version => true
  | _ => false

end ArgumentError

namespace Arguments

/-- Whether a value was given. -/
def isSet (a : Arguments) : Slot → Bool
  | .program => a.program.isSome
  | .config => a.config.isSome
  | .io => a.io.isSome
  | .font => a.font.isSome
  | .background => a.background.isSome
  | .foreground => a.foreground.isSome
  | .scale => a.scale.isSome
  | .ips => a.ips.isSome
  | .seed => a.seed.isSome
  | .stackSize => a.stackSize.isSome

def isOn (a : Arguments) : Switch → Bool
  | .cosmac => a.cosmac
  | .wrap => a.wrap
  | .extended => a.extended
  | .debug => a.debug

def turnOn (a : Arguments) : Switch → Arguments
  | .cosmac => { a with cosmac := true }
  | .wrap => { a with wrap := true }
  | .extended => { a with extended := true }
  | .debug => { a with debug := true }

/-- A number of thirty-two bits; the sign may be a minus if it is zero. -/
def short? (value : String) : Option UInt32 := do
  let n ← Text.signed? value.toList
  if 0 ≤ n ∧ n < UInt32.size then some (UInt32.ofNat n.toNat) else none

/-- A number of sixty-four bits. -/
def long? (value : String) : Option UInt64 := do
  let n ← Text.unsigned? value.toList
  if n < UInt64.size then some (UInt64.ofNat n) else none

def path? (value : String) : Option String :=
  if value.isEmpty then none else some value

/-- Takes a value, if it is one for its slot. -/
def put (a : Arguments) (slot : Slot) (value : String) : Except ArgumentError Arguments :=
  let choice {α : Type} (v : Option α) (f : Option α → Arguments) :=
    if v.isSome then .ok (f v) else .error (.refused slot value)
  let literal {α : Type} (v : Option α) (f : Option α → Arguments) :=
    if v.isSome then .ok (f v) else .error (.invalid slot value)
  match slot with
  | .program => choice (path? value) fun program => { a with program }
  | .config => choice (path? value) fun config => { a with config }
  | .io => choice (Backend.ofName? value) fun io => { a with io }
  | .font => .ok { a with font := some value }
  | .background => literal (Color.parse value).toOption fun background => { a with background }
  | .foreground => literal (Color.parse value).toOption fun foreground => { a with foreground }
  | .scale => literal (short? value) fun scale => { a with scale }
  | .ips => literal (short? value) fun ips => { a with ips }
  | .seed => literal (long? value) fun seed => { a with seed }
  | .stackSize => literal (long? value) fun stackSize => { a with stackSize }

/-- What was said wins over the configuration; a switch can only turn on. -/
def apply (a : Arguments) (c : Config) : Config where
  io := a.io.getD c.io
  font := a.font.getD c.font
  foreground := a.foreground.getD c.foreground
  background := a.background.getD c.background
  instructionsPerSecond := a.ips.getD c.instructionsPerSecond
  cosmacCompatible := c.cosmacCompatible || a.cosmac
  verticalWrapping := c.verticalWrapping || a.wrap
  extendedDisplay := if a.extended then some true else c.extendedDisplay
  program := a.program <|> c.program
  scale := a.scale.getD c.scale
  seed := a.seed <|> c.seed
  stackSize := a.stackSize.getD c.stackSize

/-- An empty command line changes nothing. -/
theorem apply_empty (c : Config) : ({} : Arguments).apply c = c := by
  cases c
  simp [apply]

end Arguments

end Chip8
