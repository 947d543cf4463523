/-!
Decimal numbers as they are written on a command line: digits only, behind a sign or not.
-/

namespace Chip8.Text

/-- The value of decimal digits, most significant first. -/
def decimalValue (digits : List Char) : Nat :=
  digits.foldl (fun n c => 10 * n + (c.toNat - 48)) 0

/-- At least one digit, and nothing else. -/
def digits? (s : List Char) : Option Nat :=
  if s.isEmpty || s.any (!·.isDigit) then none else some (decimalValue s)

/-- Digits, behind a plus sign or not. -/
def unsigned? : List Char → Option Nat
  | '+' :: s => digits? s
  | s => digits? s

/-- Digits, behind a sign or not. -/
def signed? : List Char → Option Int
  | '-' :: s => (digits? s).map fun n => -Int.ofNat n
  | s => (unsigned? s).map Int.ofNat

end Chip8.Text
