import Chip8.Text.Hex
import Mathlib.Algebra.Group.Nat.Defs
import Mathlib.Tactic.SplitIfs

/-!
Hexadecimal digits. A digit is told by its place in the alphabet of digits (`IsHexDigit`), and its
case does not matter. A number that fits a width is written with exactly so many digits.
-/

namespace Chip8.Text

/-! ### One digit -/

/-- The digits, in the order of their values. -/
def hexAlphabet : List Char := "0123456789abcdef".toList

/-- The character is the digit of this value, in either case. -/
def IsHexDigit (c : Char) (n : Nat) : Prop :=
  hexAlphabet[n]? = some c.toLower

variable {c : Char} {n : Nat}

theorem of_toNat_lt {P : Char → Prop} {bound : Nat} (h : ∀ k < bound, P (Char.ofNat k))
    (hc : c.toNat < bound) : P c := by
  have hP := h c.toNat hc
  rwa [Char.ofNat_toNat] at hP

theorem toNat_lt_of_hexValue? (h : hexValue? c = some n) : c.toNat < 128 := by
  unfold hexValue? at h
  split_ifs at h with hdigit hlower hupper
  · exact Nat.lt_of_le_of_lt (UInt32.le_iff_toNat_le.1 hdigit.2) (by decide)
  · exact Nat.lt_of_le_of_lt (UInt32.le_iff_toNat_le.1 hlower.2) (by decide)
  · exact Nat.lt_of_le_of_lt (UInt32.le_iff_toNat_le.1 hupper.2) (by decide)

theorem IsHexDigit.lt (h : IsHexDigit c n) : n < 16 :=
  (List.getElem?_eq_some_iff.1 h).1

theorem IsHexDigit.toNat_lt (h : IsHexDigit c n) : c.toNat < 128 := by
  have hascii : hexAlphabet.all (·.toNat < 128) := by decide
  have hlower : c.toLower.toNat < 128 :=
    of_decide_eq_true (List.all_eq_true.1 hascii _ (List.mem_of_getElem? h))
  unfold Char.toLower at hlower
  split_ifs at hlower with hrange
  · exact Nat.lt_of_le_of_lt (UInt32.le_iff_toNat_le.1 hrange.2) (by decide)
  · exact hlower

theorem hexValue?_eq_some_iff : hexValue? c = some n ↔ IsHexDigit c n := by
  -- All digits are ASCII characters, so that there are few characters to look at.
  have hread : ∀ k < 128, ∀ n ∈ hexValue? (Char.ofNat k), IsHexDigit (Char.ofNat k) n := by
    unfold IsHexDigit
    decide +kernel
  have hdigit : ∀ k < 128, ∀ n < 16, IsHexDigit (Char.ofNat k) n →
      hexValue? (Char.ofNat k) = some n := by
    unfold IsHexDigit
    decide +kernel
  constructor
  · intro h
    exact of_toNat_lt (P := fun c => ∀ n ∈ hexValue? c, IsHexDigit c n) hread
      (toNat_lt_of_hexValue? h) n h
  · intro h
    exact of_toNat_lt (P := fun c => ∀ n < 16, IsHexDigit c n → hexValue? c = some n) hdigit
      h.toNat_lt n h.lt h

theorem hexValue?_toUpper (c : Char) : hexValue? c.toUpper = hexValue? c := by
  have hletters : ∀ k < 123, 97 ≤ (Char.ofNat k).toNat →
      hexValue? (Char.ofNat k).toUpper = hexValue? (Char.ofNat k) := by decide
  by_cases hsame : c.toUpper = c
  · rw [hsame]
  · have hletter : 97 ≤ c.toNat ∧ c.toNat < 123 := by
      unfold Char.toUpper at hsame
      split_ifs at hsame with hrange
      · exact ⟨UInt32.le_iff_toNat_le.1 hrange.1,
          Nat.lt_succ_of_le (UInt32.le_iff_toNat_le.1 hrange.2)⟩
      · exact absurd rfl hsame
    exact of_toNat_lt (P := fun c => 97 ≤ c.toNat → hexValue? c.toUpper = hexValue? c) hletters
      hletter.2 hletter.1

/-! ### Digits of a number -/

variable {width m : Nat}

theorem lt_of_mem_nibbles {d : Nat} (h : d ∈ nibbles width n) : d < 16 := by
  induction width generalizing n with
  | zero => cases h
  | succ width ih =>
      rcases List.mem_append.1 h with hfirst | hlast
      · exact ih hfirst
      · rw [List.mem_singleton.1 hlast]
        exact Nat.mod_lt _ (by decide)

theorem hexWidth_le (hwidth : 0 < width) (h : n < 16 ^ width) : hexWidth n ≤ width := by
  unfold hexWidth
  split_ifs with hzero
  · exact hwidth
  · have hlog : n.log2 < 4 * width := by
      rw [Nat.log2_lt hzero, Nat.pow_mul]
      exact h
    omega

theorem paddedHex_of_lt (hwidth : 0 < width) (h : n < 16 ^ width) :
    paddedHex width n = fixedHex width n := by
  rw [paddedHex, Nat.max_eq_left (hexWidth_le hwidth h)]

theorem toList_upperHex_of_lt (hwidth : 0 < width) (h : n < 16 ^ width) :
    (upperHex width n).toList = (nibbles width n).map upperHexDigit := by
  rw [upperHex, Nat.max_eq_left (hexWidth_le hwidth h), String.toList_ofList]

end Chip8.Text
