/-! Characters by their number. -/

namespace Chip8.Text

/-- The character with a number, if there is one. -/
def char? (n : Nat) : Option Char :=
  if n.isValidChar then some (Char.ofNat n) else none

theorem char?_toNat (c : Char) : char? c.toNat = some c := by
  have h : c.toNat.isValidChar := c.valid
  rw [char?, if_pos h, Char.ofNat_toNat]

end Chip8.Text
