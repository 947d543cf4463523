import Chip8.Instruction.Basic

/-!
What can come out of the decoder.
-/

namespace Chip8.Instruction

theorem wellFormed_of_ofFields? {family x y n : Nibble} {nn : UInt8} {nnn : UInt16}
    {i : Instruction} (hlt : nnn.toNat < 4096) (h : ofFields? family x y n nn nnn = some i) :
    i.WellFormed := by
  unfold ofFields? at h
  split at h
  case h_1 =>
    split at h
    · cases h; trivial
    · split at h
      · cases h; trivial
      · cases h; exact ⟨hlt, ‹_›, ‹_›⟩
  case h_9 =>
    unfold decodeArithmetic? at h
    split at h <;> cases h <;> trivial
  case h_15 =>
    unfold decodeKey? at h
    split at h <;> cases h <;> trivial
  case h_16 =>
    unfold decodeMisc? at h
    split at h <;> cases h <;> trivial
  case h_6 | h_10 => split at h <;> cases h; trivial
  all_goals
    cases h
    first | exact hlt | trivial

/-- Decoded instructions are well formed: whoever executes one may rely on its address having
twelve bits. -/
theorem wellFormed_of_decode? {word : UInt16} {i : Instruction} (h : decode? word = some i) :
    i.WellFormed :=
  wellFormed_of_ofFields? (address_lt word) h

end Chip8.Instruction
