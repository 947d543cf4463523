/-!
Hexadecimal text. A number is written with a fixed count of digits, or with at least that
many when it needs more; a byte string is written with two digits a byte.
-/

namespace Chip8.Text

/-- The lower-case digit of a number below sixteen. -/
def hexDigit (n : Nat) : Char :=
  if n < 10 then Char.ofNat (48 + n) else Char.ofNat (87 + n)

/-- The upper-case digit of a number below sixteen. -/
def upperHexDigit (n : Nat) : Char :=
  if n < 10 then Char.ofNat (48 + n) else Char.ofNat (55 + n)

/-- The last `width` base-sixteen digits of `n`, most significant first. -/
def nibbles : (width : Nat) → (n : Nat) → List Nat
  | 0, _ => []
  | width + 1, n => nibbles width (n / 16) ++ [n % 16]

@[simp] theorem length_nibbles (width n : Nat) : (nibbles width n).length = width := by
  induction width generalizing n with
  | zero => rfl
  | succ width ih => simp [nibbles, ih]

/-- How many base-sixteen digits `n` needs; zero needs one. -/
def hexWidth (n : Nat) : Nat :=
  if n = 0 then 1 else Nat.log2 n / 4 + 1

/-- Exactly `width` lower-case digits. -/
def fixedHex (width n : Nat) : String :=
  String.ofList ((nibbles width n).map hexDigit)

/-- Lower-case digits without padding. -/
def hex (n : Nat) : String :=
  fixedHex (hexWidth n) n

/-- At least `width` upper-case digits, padded with zeros. -/
def upperHex (width n : Nat) : String :=
  String.ofList ((nibbles (max width (hexWidth n)) n).map upperHexDigit)

/-- At least `width` lower-case digits, padded with zeros. -/
def paddedHex (width n : Nat) : String :=
  fixedHex (max width (hexWidth n)) n

/-- Two lower-case digits a byte. -/
def hexOfBytes (bytes : List UInt8) : String :=
  String.ofList (bytes.flatMap fun b => (nibbles 2 b.toNat).map hexDigit)

/-- The value of an ASCII hexadecimal digit of either case. -/
def hexValue? (c : Char) : Option Nat :=
  if '0' ≤ c ∧ c ≤ '9' then some (c.toNat - 48)
  else if 'a' ≤ c ∧ c ≤ 'f' then some (c.toNat - 87)
  else if 'A' ≤ c ∧ c ≤ 'F' then some (c.toNat - 55)
  else none

theorem hexValue?_hexDigit : ∀ n < 16, hexValue? (hexDigit n) = some n := by decide

theorem hexValue?_upperHexDigit : ∀ n < 16, hexValue? (upperHexDigit n) = some n := by decide

end Chip8.Text
