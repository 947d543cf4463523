import Chip8.Error

/-!
Fields of a sixteen-bit instruction word. Nibbles and bytes are counted from the most
significant end, so in `0xD123` nibble 0 is `0xD` and byte 1 is `0x23`.
-/

namespace Chip8

/-- A register number, or any other four-bit operand. -/
abbrev Nibble := Fin 16

/-- Literals of a nibble are found through this, in every module alike. -/
instance neZeroSixteen : @NeZero Nat Zero.ofOfNat0 16 := ⟨by decide⟩

/-- Literals of a nibble's position are found through this. -/
instance neZeroFour : @NeZero Nat Zero.ofOfNat0 4 := ⟨by decide⟩

/-- The low twelve bits: the address operand of a word, and the part of any address that
memory looks at. -/
def address (word : UInt16) : UInt16 :=
  word &&& 0x0FFF

@[simp] theorem toNat_address (word : UInt16) : (address word).toNat = word.toNat % 4096 := by
  simp only [address, UInt16.toNat_and]
  exact Nat.and_two_pow_sub_one_eq_mod word.toNat 12

theorem address_lt (word : UInt16) : (address word).toNat < 4096 := by
  rw [toNat_address]
  exact Nat.mod_lt _ (by decide)

/-- What is cut to twelve bits after a sum is counted modulo 4096. -/
theorem toNat_address_add (a b : UInt16) :
    (address (a + b)).toNat = (a.toNat + b.toNat) % 4096 := by
  rw [toNat_address, UInt16.toNat_add]
  omega

namespace Opcode

/-- Nibble `i` of a word. -/
def nibble (word : UInt16) (i : Fin 4) : Nibble :=
  Fin.ofNat 16 (word.toNat >>> (4 * (3 - i.val)))

/-- The low byte of a word. -/
def lowByte (word : UInt16) : UInt8 :=
  word.toUInt8

/-- The nibble at an index that comes from outside. -/
def nibbleAt (word : UInt16) (index : UInt8) : Except Error UInt8 :=
  if index > 3 then .error (.fieldOutOfRange index 3)
  else .ok (word >>> (4 * (3 - index.toUInt16)) &&& 0xF).toUInt8

/-- The byte at an index that comes from outside. -/
def byteAt (word : UInt16) (index : UInt8) : Except Error UInt8 :=
  if index > 1 then .error (.fieldOutOfRange index 1)
  else .ok (word >>> (8 * (1 - index.toUInt16)) &&& 0xFF).toUInt8

end Opcode

end Chip8
