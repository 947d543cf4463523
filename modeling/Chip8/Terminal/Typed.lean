import Chip8.Terminal.Sequence

/-!
Keys out of the bytes that a terminal sends. Most keys are one character of UTF-8, control makes
another character of a letter, and the keys without a character are sequences that begin with an
escape. An escape that nothing follows is the escape key itself. Between the keys may stand what
the terminal reports about itself.
-/

namespace Chip8.Typed

/-- How many bytes a character has whose first byte is this. -/
def width? (first : UInt8) : Option Nat :=
  if first < 0x80 then some 1
  else if first < 0xC0 then none
  else if first < 0xE0 then some 2
  else if first < 0xF0 then some 3
  else if first < 0xF8 then some 4
  else none

/-- Whether a byte can stand inside a character. -/
def continues (b : UInt8) : Bool :=
  0x80 ≤ b && b < 0xC0

/-- A character, byte by byte. -/
def readChar (first : UInt8) (rest : List UInt8) : Reading :=
  match Sequence.text? (first :: rest), width? first with
  | some (c :: _), _ => .event (.key { key := .char c })
  | some [], _ => .nonsense
  | none, none => .nonsense
  | none, some width =>
    if rest.all continues && rest.length + 1 < width then .unfinished else .nonsense

/-- What control makes of the character `offset` places behind `base`. -/
def controlled (base : Char) (offset : UInt8) : Reading :=
  .event (.key { key := .char (Char.ofNat (base.toNat + offset.toNat)), control := true })

/-- A key that is no sequence. A line feed is Enter, unless the terminal is raw and sends a
carriage return for it. -/
def readPlain (raw : Bool) (first : UInt8) (rest : List UInt8) : Reading :=
  if first = 0x0D ∨ first = 0x09 ∨ first = 0x7F ∨ (first = 0x0A ∧ !raw) then
    .event (.key { key := .other })
  else if first = 0x00 then controlled ' ' 0
  else if first < 0x1B then controlled 'a' (first - 1)
  else if 0x1C ≤ first ∧ first < 0x20 then controlled '4' (first - 0x1C)
  else readChar first rest

/-- The last bytes of the keys that begin with an escape and the letter O. -/
def isApplicationKey (last : UInt8) : Bool :=
  "ABCDFHPQRS".toUTF8.toList.contains last

/-- What bytes make up; `more` says whether another byte is there already. -/
def read (raw more : Bool) : List UInt8 → Reading
  | [] => .unfinished
  | [0x1B] => if more then .unfinished else .event (.key { key := .escape })
  | 0x1B :: first :: rest =>
    if first = 0x1B then .event (.key { key := .escape })
    else if first = '['.toUInt8 then Sequence.read raw rest
    else if first = 'O'.toUInt8 then
      match rest with
      | [] => .unfinished
      | last :: _ => Sequence.otherIf (isApplicationKey last)
    else readPlain raw first rest
  | first :: rest => readPlain raw first rest

/-- The events in bytes that are read at once, and the bytes that begin another. `begun` are those
that were left the last time, and `more` says whether other bytes follow. -/
def readAll (raw more : Bool) (begun : List UInt8) :
    List UInt8 → List TerminalEvent × List UInt8
  | [] => ([], begun)
  | b :: rest =>
    let bytes := begun ++ [b]
    match read raw (more || !rest.isEmpty) bytes with
    | .event e =>
      let (events, left) := readAll raw more [] rest
      (e :: events, left)
    | .nonsense => readAll raw more [] rest
    | .unfinished => readAll raw more bytes rest

/-- The most bytes that are read at once. -/
def chunkSize : Nat := 1024

/-- Reads chunks up to the first that ends an event. What is left are the bytes that begin
another, and the chunks behind. -/
def readChunks (raw : Bool) (begun : List UInt8) :
    List (List UInt8) → List TerminalEvent × List UInt8 × List (List UInt8)
  | [] => ([], begun, [])
  | chunk :: rest =>
    let (events, begun) := readAll raw (chunk.length = chunkSize) begun chunk
    if events.isEmpty then readChunks raw begun rest else (events, begun, rest)

/-- The keys before the first report, and the events behind it if there is one. -/
def splitAtReport : List TerminalEvent → List KeyEvent × Option (List TerminalEvent)
  | [] => ([], none)
  | .report :: rest => ([], some rest)
  | .other :: rest => splitAtReport rest
  | .key e :: rest =>
    let (keys, later) := splitAtReport rest
    (e :: keys, later)

end Chip8.Typed
