import Chip8.Text.Blank
import Chip8.Text.Quoted

/-!
Fonts written as text. A line holds one row of a glyph as a binary number, with `0b` before it
or not; a line that ends in a colon heads a glyph. Headers and blank lines are skipped.
-/

namespace Chip8.Font

/-- Bytes of a full font: sixteen glyphs of five rows. -/
def maxSize : Nat := 80

/-- Rows of one glyph. -/
def glyphHeight : Nat := 5

/-- Why a text names or holds no font. -/
inductive Error
  | unknownFont (name : String)
  /-- Line `line`, counted from one, is no row. -/
  | badRow (line : Nat) (text : String)
  | tooManyRows (rows : Nat)
  deriving DecidableEq, Repr

def Error.message : Error → String
  | unknownFont name => "unknown built-in font " ++ Text.quote name
  | badRow line text => s!"line {line}: " ++ Text.quote text ++ " is not an 8-bit binary row"
  | tooManyRows rows => s!"font has {rows} rows, expected at most {maxSize}"

/-- The number that binary digits write, most significant first. -/
def binaryValue (digits : List Char) : Nat :=
  digits.foldl (fun n c => 2 * n + (if c = '1' then 1 else 0)) 0

/-- A row: at least one binary digit, behind a plus sign or not, and a value of one byte. -/
def byte? (s : List Char) : Option UInt8 :=
  let digits := if s.head? = some '+' then s.drop 1 else s
  if digits.isEmpty || digits.any (fun c => c != '0' && c != '1') then none
  else if binaryValue digits < 256 then some (UInt8.ofNat (binaryValue digits))
  else none

/-- Lines without a row: blank ones and glyph headers. -/
def isSkipped (line : List Char) : Bool :=
  line.isEmpty || line.getLast? == some ':'

/-- The digits of a row, less one `0b`. -/
def dropRadix : List Char → List Char
  | '0' :: 'b' :: digits => digits
  | digits => digits

/-- Reads the rows of trimmed lines; `line` is the number of the first of them. -/
def readRows (line : Nat) : List (List Char) → Except Error (List UInt8)
  | [] => .ok []
  | text :: rest =>
    if isSkipped text then readRows (line + 1) rest
    else match byte? (dropRadix text) with
      | none => .error (.badRow line (String.ofList text))
      | some row => (readRows (line + 1) rest).map (row :: ·)

/-- The bytes of a textual font. A line that is no row is reported before too many rows are. -/
def parse (text : String) : Except Error (List UInt8) := do
  let rows ← readRows 1 ((Text.lines text.toList).map Text.trim)
  if maxSize < rows.length then .error (.tooManyRows rows.length) else .ok rows

end Chip8.Font
