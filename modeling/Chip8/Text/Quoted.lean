import Chip8.Text.Hex
import Chip8.Text.Printable

/-!
Quoted text, as messages show strings and characters that came from outside. The mark that
encloses the text and the backslash are escaped, five characters have short escapes or none,
and everything without a glyph of its own is written as its code point in hexadecimal.
-/

namespace Chip8.Text

/-- One character as it stands between quotation marks `mark`. -/
def escapeChar (mark c : Char) : List Char :=
  if c = mark ∨ c = '\\' then ['\\', c]
  else if c = '\n' then ['\\', 'n']
  else if c = '\r' then ['\\', 'r']
  else if c = '\t' then ['\\', 't']
  else if c.toNat = 0 then ['\\', '0']
  else if isPrintable c then [c]
  else "\\u\x7b".toList ++ (hex c.toNat).toList ++ ['\x7d']

/-- The text between double quotation marks, escaped. -/
def quote (s : String) : String :=
  String.ofList ('"' :: s.toList.flatMap (escapeChar '"') ++ ['"'])

/-- The character between single quotation marks, escaped. -/
def quoteChar (c : Char) : String :=
  String.ofList ('\x27' :: escapeChar '\x27' c ++ ['\x27'])

end Chip8.Text
