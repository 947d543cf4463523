import Chip8.Config.Default
import Chip8.Config.Reader
import Chip8.Demo
import Chip8.Files.Path
import Chip8.Files.System
import Chip8.Font.Builtin
import Chip8.Log
import Chip8.Machine.Build

/-!
Finding and loading the configuration, and the files that it names. The configuration is
looked for in four places, one after the other; the last of them is made if it is missing.
-/

namespace Chip8

/-- What the program reads from its environment. -/
structure Environment where
  /-- The variable `CHIP_8_CONF_PATH`. -/
  configPath : Option String := none
  /-- The variable `XDG_CONFIG_HOME`. -/
  configHome : Option String := none
  /-- The variable `HOME`. -/
  home : Option String := none

/-- The directory for the user's configuration files. -/
def Environment.userDirectory? (env : Environment) : Option String :=
  match env.configHome.filter Path.isAbsolute with
  | some directory => some directory
  | none => (env.home.filter (!·.isEmpty)).map (Path.join · ".config")

/-- What a file is for. -/
inductive Purpose
  | config | font | program
  deriving DecidableEq, Repr

def Purpose.name : Purpose → String
  | .config => "config"
  | .font => "font"
  | .program => "ROM"

/-- Why something cannot be loaded. -/
inductive LoadError
  | unreadable (purpose : Purpose) (path : String) (fault : Fault)
  | invalidConfig (path : String) (e : Config.ParseError)
  | invalidFont (path : String) (e : Font.Error)
  /-- The user's directory for the configuration cannot be made. -/
  | noDirectory (path : String) (fault : Fault)
  /-- The default configuration cannot be written. -/
  | unwritable (path : String) (fault : Fault)
  deriving DecidableEq, Repr

namespace LoadError

/-- What was being done when it failed. -/
def context : LoadError → String
  | unreadable purpose path _ => s!"Failed to read {purpose.name} file {path}"
  | invalidConfig path _ => s!"Invalid config file {path}"
  | invalidFont path _ => s!"Invalid font file {path}"
  | noDirectory path _ => s!"Failed to create config directory {path}"
  | unwritable path _ => s!"Failed to write config file {path}"

/-- Why that failed. -/
def cause : LoadError → String
  | unreadable _ _ fault | noDirectory _ fault | unwritable _ fault => fault.message
  | invalidConfig _ e => e.message
  | invalidFont _ e => e.message

/-- Both on one line. -/
def line (e : LoadError) : String :=
  e.context ++ ": " ++ e.cause

end LoadError

namespace Config

/-- The name of the configuration file, in the working directory and in the user's. -/
def fileName : String := "chip8.toml"

/-- The directory of the configuration file below the user's directory. -/
def directoryName : String := "chip-8-interp"

variable {m : Type → Type} [Monad m] [FileSystem m]

/-- The configuration file below the user's directory `base`. If there is none, the default
configuration is written there first. -/
def userFile (base : String) : m (Except LoadError String × List LogLine) := do
  let directory := Path.join base directoryName
  let path := Path.join directory fileName
  if ← FileSystem.isFile path then return (.ok path, [])
  match ← FileSystem.createDirs directory with
  | .error fault => return (.error (.noDirectory directory fault), [])
  | .ok () =>
    match ← FileSystem.write path defaultText.toUTF8 with
    | .error fault => return (.error (.unwritable path fault), [])
    | .ok () => return (.ok path, [⟨.info, s!"wrote default configuration to {path}"⟩])

/-- The configuration file of the user's directory, if it can be had. -/
def locateForUser (env : Environment) : m (Option String × List LogLine) := do
  match env.userDirectory? with
  | none => return (none, [])
  | some base =>
    match ← userFile base with
    | (.ok path, log) => return (some path, log)
    | (.error e, log) => return (none, log ++ [⟨.warn, e.line⟩])

/-- The configuration file of the working directory or, if there is none, of the user. -/
def locateDefault (env : Environment) : m (Option String × List LogLine) := do
  if ← FileSystem.isFile fileName then return (some fileName, []) else locateForUser env

/-- Chooses the configuration file: an explicit path wins, then the environment variable if it
names a file, then the working directory, then the user's directory. -/
def locate (env : Environment) (explicit : Option String) :
    m (Option String × List LogLine) := do
  match explicit, env.configPath with
  | some path, _ => return (some path, [])
  | none, none => locateDefault env
  | none, some path =>
    if ← FileSystem.isFile path then return (some path, [])
    else
      let (found, log) ← locateDefault env
      return (found, ⟨.debug, s!"CHIP_8_CONF_PATH points to missing file {path}"⟩ :: log)

/-- Reads the configuration in a file. -/
def ofFile (path : String) : m (Except LoadError Config) := do
  match ← FileSystem.readText path with
  | .error fault => return .error (.unreadable .config path fault)
  | .ok text =>
    match parse text with
    | .error e => return .error (.invalidConfig path e)
    | .ok config => return .ok config

/-- Chooses the configuration file and reads it; without one the default holds. -/
def load (env : Environment) (explicit : Option String) :
    m (Except LoadError Config × List LogLine) := do
  match ← locate env explicit with
  | (some path, log) =>
    return (← ofFile path, log ++ [⟨.info, s!"loading configuration from {path}"⟩])
  | (none, log) =>
    let config := (parse defaultText).mapError (.invalidConfig fileName)
    return (config, log ++ [⟨.info, "using built-in configuration"⟩])

/-- The bytes of the font: built in under that name, or those of a file, which is text if its
name ends in `.txt`. -/
def fontBytes (c : Config) : m (Except LoadError (List UInt8)) := do
  match Font.Builtin.parse c.font with
  | .ok font => return .ok font.bytes
  | .error _ =>
    if Path.extension? c.font = some "txt".toList then
      match ← FileSystem.readText c.font with
      | .error fault => return .error (.unreadable .font c.font fault)
      | .ok text => return (Font.parse text).mapError (.invalidFont c.font)
    else
      match ← FileSystem.read c.font with
      | .error fault => return .error (.unreadable .font c.font fault)
      | .ok bytes => return .ok bytes.toList

/-- The bytes of the program: those of a file, or the built-in program. -/
def programBytes (c : Config) : m (Except LoadError (List UInt8)) := do
  match c.program with
  | none => return .ok demoProgram
  | some path =>
    match ← FileSystem.read path with
    | .error fault => return .error (.unreadable .program path fault)
    | .ok bytes => return .ok bytes.toList

/-- The machine to build; the program is read before the font. -/
def blueprint (c : Config) : m (Except LoadError Blueprint) := do
  match ← c.programBytes with
  | .error e => return .error e
  | .ok program =>
    match ← c.fontBytes with
    | .error e => return .error e
    | .ok font =>
      return .ok {
        program
        font
        seed := c.seed
        compat := c.compatibility
        stackSize := c.stackSize.toNat }

end Config

end Chip8
