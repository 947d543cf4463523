/-!
The input side of a terminal. In raw mode every byte is handed on as it is typed. Otherwise bytes
make up lines: a line can be edited until it is ended, and then it is handed on whole.
-/

namespace Chip8

structure InputQueue where
  /-- The bytes that were handed on and nobody read. What stands in one list is read in one go. -/
  lines : List (List UInt8) := []
  /-- The line that can be edited, its last byte first. -/
  line : List UInt8 := []
  /-- Whether the next byte stands for itself. -/
  quoted : Bool := false
  /-- Whether something happened since the last look that is worth another. -/
  announced : Bool := false

namespace InputQueue

/-- Hands on bytes. -/
def push (q : InputQueue) (bytes : List UInt8) : InputQueue :=
  { q with
    lines := [q.lines.flatten ++ bytes]
    announced := q.announced || !bytes.isEmpty }

/-- Hands on the line, with an end. -/
def endLine (q : InputQueue) (ending : List UInt8) : InputQueue :=
  { q with lines := q.lines ++ [q.line.reverse ++ ending], line := [], announced := true }

/-- Whether a byte belongs to a word: a letter of Latin-1, a digit or an underscore. -/
def isWordByte (b : UInt8) : Bool :=
  let c := Char.ofNat b.toNat
  c.isAlphanum || c = '_' || (0xC0 ≤ b && b ≠ 0xD7 && b ≠ 0xF7)

/-- Takes a byte into the line, or does with the line what the byte asks for. -/
def edit (q : InputQueue) (b : UInt8) : InputQueue :=
  if q.quoted then { q with line := b :: q.line, quoted := false } else
  match b with
  -- ends of a line and of the input
  | 0x0A | 0x0D => q.endLine [0x0A]
  | 0x04 => q.endLine []
  -- interrupt, suspend and quit drop all that is there
  | 0x03 | 0x1A | 0x1C => { announced := q.announced }
  -- go on and stop writing, and show the line again
  | 0x11 | 0x13 | 0x12 => q
  | 0x16 => { q with quoted := true }
  -- erase a byte, the line, a word
  | 0x7F => { q with line := q.line.tail }
  | 0x15 => { q with line := [] }
  | 0x17 => { q with line := (q.line.dropWhile (!isWordByte ·)).dropWhile isWordByte }
  | _ => { q with line := b :: q.line }

/-- Makes all bytes readable that are there. -/
def enterRaw (q : InputQueue) : InputQueue :=
  { lines := [q.lines.flatten ++ q.line.reverse], announced := true }

/-- Makes one line of the bytes that nobody read. A zero at its end counts as the end of input. -/
def leaveRaw (q : InputQueue) : InputQueue :=
  let bytes := q.lines.flatten
  { lines := [if bytes.getLast? = some 0 then bytes.dropLast else bytes], announced := true }

/-- Bytes that ask for nothing become part of the line as they are. -/
theorem foldl_edit (q : InputQueue) (text : List UInt8) (hq : q.quoted = false)
    (h : ∀ b ∈ text, 0x20 ≤ b ∧ b ≠ 0x7F) :
    text.foldl edit q = { q with line := text.reverse ++ q.line } := by
  induction text generalizing q with
  | nil => rfl
  | cons b text ih =>
    obtain ⟨hb, h⟩ := List.forall_mem_cons.1 h
    have hedit : q.edit b = { q with line := b :: q.line } := by
      simp only [edit, hq, Bool.false_eq_true, if_false]
      split <;> first | rfl | exact absurd hb (by decide)
    rw [List.foldl_cons, hedit, ih _ (by simpa using hq) h]
    simp

end InputQueue

end Chip8
