import Chip8.Config.Basic
import Chip8.Toml.Reader

/-!
Reading a configuration. Each entry of the TOML document sets one field, in the order of the
document, and the first that cannot be set is the one that is reported. A document that is no
TOML is reported before any of them.
-/

namespace Chip8.Config

/-- Why a text is no configuration. -/
inductive ParseError
  /-- The text is no TOML document. -/
  | malformed
  | unknownField (key : String)
  /-- A value of the wrong type, or a number out of range. -/
  | invalidValue (key : String)
  /-- A text that names no colour. -/
  | invalidColor (key : String) (e : ColorError)
  deriving DecidableEq, Repr

def ParseError.message : ParseError → String
  | malformed => "malformed document"
  | unknownField key => "unknown field " ++ Text.quote key
  | invalidValue key => "invalid value for " ++ Text.quote key
  | invalidColor _ e => e.message

open Toml (Value Entries)

def text? : Value → Option String
  | .text s => some s
  | _ => none

def boolean? : Value → Option Bool
  | .boolean b => some b
  | _ => none

/-- A whole number below `bound`. -/
def natural? (bound : Nat) : Value → Option Nat
  | .integer n => if 0 ≤ n ∧ n.toNat < bound then some n.toNat else none
  | _ => none

/-- A value that holds nothing. -/
def isEmpty : Value → Bool
  | .array items => items.isEmpty
  | .table _ entries => entries.isEmpty
  | _ => false

/-- A choice is a text, or a table with one entry, whose key is the choice and whose value is
empty. -/
def choice? : Value → Option String
  | .text s => some s
  | .table _ [(key, value)] => if isEmpty value then some key else none
  | _ => none

/-- Sets the field of one entry. -/
def set (c : Config) (key : String) (value : Value) : Except ParseError Config :=
  let need {α : Type} (v : Option α) (f : α → Config) : Except ParseError Config :=
    match v with
    | some v => .ok (f v)
    | none => .error (.invalidValue key)
  let needColor (f : Color → Config) : Except ParseError Config :=
    match text? value with
    | none => .error (.invalidValue key)
    | some s =>
      match Color.parse s with
      | .ok color => .ok (f color)
      | .error e => .error (.invalidColor key e)
  match key with
  | "io" => need ((choice? value).bind Backend.ofName?) fun io => { c with io }
  | "font" => need (text? value) fun font => { c with font }
  | "foreground" => needColor fun foreground => { c with foreground }
  | "background" => needColor fun background => { c with background }
  | "instructions_per_second" =>
    need (natural? UInt32.size value) fun n => { c with instructionsPerSecond := UInt32.ofNat n }
  | "cosmac_compatible" => need (boolean? value) fun b => { c with cosmacCompatible := b }
  | "vertical_wrapping" => need (boolean? value) fun b => { c with verticalWrapping := b }
  | "extended_display" => need (boolean? value) fun b => { c with extendedDisplay := some b }
  | "program" => need (text? value) fun path => { c with program := some path }
  | "scale" => need (natural? UInt32.size value) fun n => { c with scale := UInt32.ofNat n }
  | "seed" => need (natural? UInt64.size value) fun n => { c with seed := some (UInt64.ofNat n) }
  | "stack_size" =>
    need (natural? UInt64.size value) fun n => { c with stackSize := UInt64.ofNat n }
  | _ => .error (.unknownField key)

/-- Sets the fields of entries, the first first. -/
def setAll (c : Config) : Entries → Except ParseError Config
  | [] => .ok c
  | (key, value) :: rest => do
    let c ← c.set key value
    c.setAll rest

/-- The configuration that a text writes; what it leaves out keeps its default. -/
def parse (text : String) : Except ParseError Config :=
  match Toml.parse text with
  | none => .error .malformed
  | some entries => ({} : Config).setAll entries

end Chip8.Config
