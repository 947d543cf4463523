import Chip8.CommandLine.Basic

/-!
Reading the command line, one word after the other. A value that stands in a word of its own is
looked at only when the next option is reached, or the end. So a word that is no option is
reported before a bad value that stands anywhere before it and was not looked at.
-/

namespace Chip8

/-- What the name of an option stands for. -/
inductive Meaning
  | value (slot : Slot)
  | switch (s : Switch)
  | help
  | version
  deriving DecidableEq, Repr

namespace Meaning

/-- The meaning of a name behind two dashes. -/
def ofLong? : String → Option Meaning
  | "config" => some (.value .config)
  | "io" => some (.value .io)
  | "font" => some (.value .font)
  | "background" => some (.value .background)
  | "foreground" => some (.value .foreground)
  | "scale" => some (.value .scale)
  | "ips" => some (.value .ips)
  | "seed" => some (.value .seed)
  | "stack-size" => some (.value .stackSize)
  | "cosmac" => some (.switch .cosmac)
  | "wrap" => some (.switch .wrap)
  | "extended" => some (.switch .extended)
  | "debug" => some (.switch .debug)
  | "help" => some .help
  | "version" => some .version
  | _ => none

/-- The meaning of a letter behind one dash. -/
def ofShort? : Char → Option Meaning
  | 'c' => some (.value .config)
  | 's' => some (.value .scale)
  | 'i' => some (.value .ips)
  | 'd' => some (.switch .debug)
  | 'h' => some .help
  | 'V' => some .version
  | _ => none

end Meaning

/-- A command line that was read up to some word. -/
structure ArgumentReader where
  args : Arguments := {}
  /-- What was named last, and its value if that was reached; it is not looked at yet. -/
  pending : Option (Slot × Option String) := none
  /-- Whether the program was named. -/
  programNamed : Bool := false
  /-- Whether two dashes stood alone: no word behind them is an option. -/
  plain : Bool := false

namespace ArgumentReader

abbrev Result := Except ArgumentError ArgumentReader

/-- Looks at the value of a slot. -/
def fill (r : ArgumentReader) (slot : Slot) (value : String) : Result :=
  if r.args.isSet slot then .error (.repeated slot.name)
  else (r.args.put slot value).map fun args => { r with args, pending := none }

/-- Looks at the value that is pending. -/
def settle (r : ArgumentReader) : Result :=
  match r.pending with
  | none => .ok r
  | some (slot, none) => .error (.missing slot)
  | some (slot, some value) => r.fill slot value

/-- An option or a switch without a value in its own word. -/
def name (r : ArgumentReader) : Meaning → Result
  | .value slot => do return { ← r.settle with pending := some (slot, none) }
  | .switch s => do
    let r ← r.settle
    if r.args.isOn s then .error (.repeated s.name)
    else return { r with args := r.args.turnOn s }
  | .help => do
    let _ ← r.settle
    .error .help
  | .version => do
    let _ ← r.settle
    .error .version

/-- An option with its value in its own word. -/
def nameWith (r : ArgumentReader) (slot : Slot) (value : String) : Result := do
  (← r.settle).fill slot value

/-- What stands behind two dashes: a name, and a value behind the first equals sign. -/
def long (r : ArgumentReader) (word : String) (body : List Char) : Result :=
  let key := String.ofList (body.takeWhile (· != '='))
  match Meaning.ofLong? key, body.dropWhile (· != '=') with
  | none, _ => .error (.unknown word)
  | some meaning, [] => r.name meaning
  | some (.value slot), _ :: value => r.nameWith slot (String.ofList value)
  | some _, _ :: value => .error (.unneeded ("--" ++ key) (String.ofList value))

/-- What stands behind one dash: letters of switches, then perhaps the letter of an option and
its value, behind an equals sign or not. -/
def short (r : ArgumentReader) (word : String) : List Char → Result
  | [] => .ok r
  | c :: rest =>
    match Meaning.ofShort? c, rest with
    | none, _ => .error (.unknown word)
    | some (.value slot), '=' :: value => r.nameWith slot (String.ofList value)
    | some (.value slot), c :: value => r.nameWith slot (String.ofList (c :: value))
    | some meaning, rest => do (← r.name meaning).short word rest

/-- A word that is no option: the value of the option before it, or the program. -/
def other (r : ArgumentReader) (word : String) : Result :=
  match r.pending, r.plain with
  | some (slot, none), false => .ok { r with pending := some (slot, some word) }
  | _, _ =>
    if r.programNamed then .error (.unknown word)
    else do
      return { ← r.settle with pending := some (.program, some word), programNamed := true }

def read (r : ArgumentReader) (word : String) : Result :=
  if r.plain then r.other word
  else match word.toList with
    | ['-', '-'] => .ok { r with plain := true }
    | '-' :: '-' :: body => r.long word body
    | ['-'] => r.other word
    | '-' :: letters => r.short word letters
    | _ => r.other word

end ArgumentReader

/-- What the words of a command line say. -/
def Arguments.parse (words : List String) : Except ArgumentError Arguments := do
  let r ← words.foldlM ArgumentReader.read {}
  return (← r.settle).args

end Chip8
