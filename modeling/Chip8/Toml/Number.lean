import Chip8.Text.Hex

/-!
Numbers and dates of TOML, each written without a blank inside. Integers are read; of floats
and dates it is only said whether they are well formed.
-/

namespace Chip8.Toml

/-- The digits of a group without the underscores between them; `none` if an underscore has no
digit on one of its sides, or if there is no digit at all. -/
def ungroup (isDigit : Char → Bool) (afterDigit : Bool) : List Char → Option (List Char)
  | [] => if afterDigit then some [] else none
  | c :: rest =>
    if c = '_' then if afterDigit then ungroup isDigit false rest else none
    else if isDigit c then (ungroup isDigit true rest).map (c :: ·)
    else none

/-- The value of digits of any radix up to sixteen. -/
def digitsValue (radix : Nat) (digits : List Char) : Nat :=
  digits.foldl (fun n c => radix * n + (Text.hexValue? c).getD 0) 0

/-- The text behind a sign, and whether the sign is a minus. -/
def dropSign : List Char → Bool × List Char
  | '-' :: rest => (true, rest)
  | '+' :: rest => (false, rest)
  | rest => (false, rest)

/-- Decimal digits without a leading zero. -/
def decimal? (s : List Char) : Option Nat := do
  let digits ← ungroup Char.isDigit false s
  if digits.head? = some '0' ∧ digits.length ≠ 1 then none
  return digitsValue 10 digits

/-- Digits of a radix with a mark of its own. -/
def radix? : List Char → Option Nat
  | '0' :: 'x' :: s => (ungroup (fun c => (Text.hexValue? c).isSome) false s).map (digitsValue 16)
  | '0' :: 'o' :: s => (ungroup (fun c => '0' ≤ c ∧ c ≤ '7') false s).map (digitsValue 8)
  | '0' :: 'b' :: s => (ungroup (fun c => c = '0' ∨ c = '1') false s).map (digitsValue 2)
  | _ => none

/-- An integer of sixty-four bits with a sign. -/
def integer? (s : List Char) : Option Int := do
  let n ← match radix? s with
    | some n => some (Int.ofNat n)
    | none =>
      let (minus, digits) := dropSign s
      (decimal? digits).map fun n => if minus then -Int.ofNat n else Int.ofNat n
  if -9223372036854775808 ≤ n ∧ n < 9223372036854775808 then some n else none

/-- The least number that is too large for a float of sixty-four bits: half a unit above the
largest one. -/
def floatBound : Nat := Nat.pow 2 1024 - Nat.pow 2 970

/-- Whether `n` times ten to the `exponent` is too large for a float. -/
def overflows (n : Nat) : (exponent : Int) → Bool
  | .ofNat e => floatBound ≤ n * Nat.pow 10 e
  | .negSucc e => floatBound * Nat.pow 10 (e + 1) ≤ n

/-- The value of an exponent. Behind a number that large further digits do not count. -/
def exponentValue (digits : List Char) : Nat :=
  digits.foldl (fun n c => if n < 65536 then 10 * n + (Text.hexValue? c).getD 0 else n) 0

/-- Whether the text is a float: a fraction, an exponent or both behind a whole number, an
infinity or no number. One that is too large must be negative. -/
def isFloat (s : List Char) : Bool :=
  let (minus, s) := dropSign s
  if s = ['i', 'n', 'f'] || s = ['n', 'a', 'n'] then true
  else
    let mantissa := s.takeWhile fun c => c != 'e' && c != 'E'
    let exponent := s.drop mantissa.length
    let whole := mantissa.takeWhile (· != '.')
    let fraction := mantissa.drop whole.length
    let digits? := ungroup Char.isDigit false
    let (below, power) := dropSign (exponent.drop 1)
    let fraction? := if fraction.isEmpty then some [] else digits? (fraction.drop 1)
    let power? := if exponent.isEmpty then some [] else digits? power
    match decimal? whole, fraction?, power? with
    | some n, some fraction, some power =>
      let e := Int.ofNat (exponentValue power)
      let scale := (if below then -e else e) - Int.ofNat fraction.length
      whole.length != s.length
        && (minus
          || !overflows (n * Nat.pow 10 fraction.length + digitsValue 10 fraction) scale)
    | _, _, _ => false

/-- The value of exactly `n` decimal digits, and what follows them. -/
def fixedDecimal? (n : Nat) (s : List Char) : Option (Nat × List Char) :=
  let digits := s.take n
  if digits.length = n ∧ digits.all Char.isDigit then some (digitsValue 10 digits, s.drop n)
  else none

def daysIn (year month : Nat) : Nat :=
  if month = 2 then
    if year % 4 = 0 ∧ (year % 100 ≠ 0 ∨ year % 400 = 0) then 29 else 28
  else if month ∈ [4, 6, 9, 11] then 30 else 31

/-- What follows a date. -/
def dropDate? (s : List Char) : Option (List Char) := do
  let (year, s) ← fixedDecimal? 4 s
  let '-' :: s := s | none
  let (month, s) ← fixedDecimal? 2 s
  let '-' :: s := s | none
  let (day, s) ← fixedDecimal? 2 s
  if 1 ≤ month ∧ month ≤ 12 ∧ 1 ≤ day ∧ day ≤ daysIn year month then some s else none

/-- What follows an hour and a minute. -/
def dropMinutes? (s : List Char) : Option (List Char) := do
  let (hour, s) ← fixedDecimal? 2 s
  let ':' :: s := s | none
  let (minute, s) ← fixedDecimal? 2 s
  if hour < 24 ∧ minute < 60 then some s else none

/-- What follows a time of day. -/
def dropTime? (s : List Char) : Option (List Char) := do
  let s ← dropMinutes? s
  let ':' :: s := s | none
  let (second, s) ← fixedDecimal? 2 s
  if 60 < second then none
  match s with
  | '.' :: s =>
    if (s.takeWhile Char.isDigit).isEmpty then none else some (s.dropWhile Char.isDigit)
  | s => some s

/-- Whether the text is nothing or the distance from universal time. -/
def isOffset : List Char → Bool
  | [] => true
  | ['Z'] | ['z'] => true
  | '+' :: s | '-' :: s => dropMinutes? s == some []
  | _ => false

/-- Whether the text is a date, a time, or both with a `T` or a blank between. -/
def isDate (s : List Char) : Bool :=
  match dropDate? s with
  | none => dropTime? s == some []
  | some [] => true
  | some (c :: s) =>
    (c == 'T' || c == 't' || c == ' ')
      && match dropTime? s with
        | none => false
        | some s => isOffset s

end Chip8.Toml
