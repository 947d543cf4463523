import Chip8.Terminal.KeyCode

/-!
What a terminal sends behind an escape and an opening bracket. Only keys by number and reports
concern the display. The cursor and function keys, the mouse, pasted text and the focus are told
apart from sequences that mean nothing at all, since a reading ends with an event.
-/

namespace Chip8

/-- What a terminal can send. -/
inductive TerminalEvent
  | key (e : KeyEvent)
  /-- Something that does not concern the display. -/
  | other
  /-- An answer to a question about the terminal or its cursor. -/
  | report
  deriving DecidableEq, Repr

/-- What the bytes since the last event make up. -/
inductive Reading
  | event (e : TerminalEvent)
  /-- Nothing that a terminal sends; the bytes are dropped. -/
  | nonsense
  /-- The beginning of an event. -/
  | unfinished
  deriving DecidableEq, Repr

namespace Sequence

open KeyCode (number?)

/-- Bytes as text. -/
def text? (bytes : List UInt8) : Option (List Char) :=
  (String.fromUTF8? ⟨bytes.toArray⟩).map String.toList

/-- Something that does not concern the display, if it is well formed. -/
def otherIf (wellFormed : Bool) : Reading :=
  if wellFormed then .event .other else .nonsense

/-- Whether a field is a number below `bound`. -/
def isNumber (bound : Nat) (field : List Char) : Bool :=
  (number? bound field).isSome

/-- Whether the first of the fields are the two numbers of a place on the screen. -/
def isPlace : List (List Char) → Bool
  | col :: row :: _ => isNumber UInt16.size col && isNumber UInt16.size row
  | _ => false

/-- Whether the mouse can do what a number says. Bits 0, 1, 6 and 7 number a button or a wheel,
and bit 5 says that the mouse was moved meanwhile. -/
def isMouseAction (n : Nat) : Bool :=
  n % 4 + 4 * (n / 64) < if n.testBit 5 then 6 else 8

/-- A mouse report with one byte for each number. -/
def readMouseBytes (bytes : List UInt8) : Reading :=
  match bytes with
  | action :: _ :: _ :: _ => otherIf (0x20 ≤ action && isMouseAction (action - 0x20).toNat)
  | _ => .unfinished

/-- A mouse report with a number for what was done, from `base` on, and a place. -/
def isMouse (base : Nat) : List (List Char) → Bool
  | action :: place =>
    (number? UInt8.size action).any (fun n => base ≤ n && isMouseAction (n - base))
      && isPlace place
  | [] => false

/-- The numbers of keys before a tilde: home to page down, and the function keys. -/
def isEditingKey (n : Nat) : Bool :=
  (1 ≤ n && n ≤ 8) || (11 ≤ n && n ≤ 15) || (17 ≤ n && n ≤ 21) || (23 ≤ n && n ≤ 26)
    || n == 28 || n == 29 || (31 ≤ n && n ≤ 34)

/-- Whether the fields before the letter of a cursor or function key say which other keys are
held. The last digit may say so as well. -/
def saysHeld (fields : List (List Char)) : Bool :=
  isNumber UInt8.size ((Text.fields ':' (fields.getD 1 [])).headD [])
    || ((fields.getLastD []).getLast?.any Char.isDigit)

/-- The last bytes of cursor and function keys. -/
def isCursorKey (last : UInt8) : Bool :=
  "ABCDFHPQS".toUTF8.toList.contains last

/-- What begins pasted text. -/
def pasteStart : List UInt8 := "200~".toUTF8.toList

/-- What ends pasted text, with its escape. -/
def pasteEnd : List UInt8 := 0x1B :: "[201~".toUTF8.toList

/-- A sequence of fields and a last byte that says what they are. -/
def readFields (raw : Bool) (fields : List (List Char)) (last : UInt8) : Reading :=
  if last = 'u'.toUInt8 then
    match KeyCode.read raw fields with
    | some e => .event (.key e)
    | none => .nonsense
  else if last = 'R'.toUInt8 then if isPlace fields then .event .report else .nonsense
  else if last = 'M'.toUInt8 then otherIf (isMouse 0x20 fields)
  else if last = '~'.toUInt8 then
    otherIf ((number? UInt8.size (fields.headD [])).any isEditingKey)
  else otherIf (isCursorKey last && saysHeld fields)

/-- A sequence that begins with a digit. -/
def readNumbers (raw : Bool) (bytes : List UInt8) : Reading :=
  let last := bytes.getLast?.getD 0
  if last < 0x40 ∨ 0x7E < last then .unfinished
  else if pasteStart.isPrefixOf bytes then
    if pasteEnd.isSuffixOf bytes then .event .other else .unfinished
  else
    match text? bytes.dropLast with
    | some text => readFields raw (Text.fields ';' text) last
    | none => .nonsense

/-- What stands behind the escape and the bracket. -/
def read (raw : Bool) : List UInt8 → Reading
  | [] => .unfinished
  | first :: rest =>
    let last := rest.getLast?.getD 0
    if first = '['.toUInt8 then
      match rest with
      | [] => .unfinished
      | key :: _ => otherIf ("ABCDE".toUTF8.toList.contains key)
    else if first = 'M'.toUInt8 then readMouseBytes rest
    else if first = '<'.toUInt8 then
      if last = 'M'.toUInt8 ∨ last = 'm'.toUInt8 then
        otherIf ((text? rest.dropLast).any fun text => isMouse 0 (Text.fields ';' text))
      else .unfinished
    else if first = '?'.toUInt8 then
      if last = 'c'.toUInt8 ∨ (last = 'u'.toUInt8 ∧ 2 ≤ rest.length) then .event .report
      else .unfinished
    else if '0'.toUInt8 ≤ first ∧ first ≤ '9'.toUInt8 then
      if rest.isEmpty then .unfinished else readNumbers raw (first :: rest)
    else otherIf (isCursorKey first || "ZIO".toUTF8.toList.contains first)

end Sequence

end Chip8
