import Chip8.Terminal.Key
import Chip8.Text.CodePoint
import Chip8.Text.Decimal
import Chip8.Text.Fields

/-!
Keys by number. A key is the number of its character or, without one, a number of its own. What
else is said about it stands behind it: `key:shifted;held:action`, of which only the first must
be there. `shifted` is the character that shift makes of the key, and `held` says which other
keys are held, one bit each, plus one.
-/

namespace Chip8.KeyCode

/-- A decimal number below `bound`. -/
def number? (bound : Nat) (s : List Char) : Option Nat :=
  (Text.unsigned? s).filter (· < bound)

/-- The keys of the number pad that write something. -/
def numberPad : List (Nat × Char) := [
  (57399, '0'), (57400, '1'), (57401, '2'), (57402, '3'), (57403, '4'), (57404, '5'),
  (57405, '6'), (57406, '7'), (57407, '8'), (57408, '9'), (57409, '.'), (57410, '/'),
  (57411, '*'), (57412, '-'), (57413, '+'), (57415, '='), (57416, ',')]

/-- The first and last numbers of keys that write nothing: locks and menu, function keys, the
number pad's Enter and cursor, sound, and the keys that are held with others. -/
def mute : List (Nat × Nat) := [
  (57358, 57363), (57376, 57398), (57414, 57414), (57417, 57427), (57428, 57440), (57441, 57454)]

/-- The two shift keys. -/
def shifts : List Nat := [57441, 57447]

/-- The two control keys. -/
def controls : List Nat := [57442, 57448]

/-- The key with a number; `raw` says whether a line feed is a character. -/
def key? (raw : Bool) (n : Nat) : Option Key :=
  if n = 0x1B then some .escape
  else if n ∈ [0x09, 0x0D, 0x7F] ∨ (n = 0x0A ∧ !raw) then some .other
  else if mute.any fun (first, last) => first ≤ n && n ≤ last then some .other
  else (numberPad.lookup n <|> Text.char? n).map .char

/-- What is said about a key. -/
def read (raw : Bool) (fields : List (List Char)) : Option KeyEvent := do
  let codes := Text.fields ':' (fields.headD [])
  let state := Text.fields ':' (fields.getD 1 [])
  let code ← number? UInt32.size (codes.headD [])
  let key ← key? raw code
  let held? := number? UInt8.size (state.headD [])
  let held := held?.getD 1 - 1
  let shift := held.testBit 0 || shifts.contains code
  let shifted := (number? UInt32.size (codes.getD 1 [])).bind Text.char?
  return {
    key := if shift then (shifted.map .char).getD key else key
    control := held.testBit 2 || controls.contains code
    action := match held?, number? UInt8.size (state.getD 1 []) with
      | some _, some 2 => .again
      | some _, some 3 => .release
      | _, _ => .press }

end Chip8.KeyCode
