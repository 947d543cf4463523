import Chip8.Opcode

/-!
Memory: 4096 bytes. An address has sixteen bits, of which memory looks at the low twelve, so
what lies behind the last byte is the first one.
-/

namespace Chip8

def memorySize : Nat := 0x1000

abbrev Memory := Vector UInt8 memorySize

/-- The place in memory that an address names. -/
def slot (addr : UInt16) : Fin memorySize :=
  ⟨(address addr).toNat, address_lt addr⟩

@[simp] theorem val_slot (addr : UInt16) : (slot addr).val = addr.toNat % 4096 := by
  simp [slot]

namespace Memory

def blank : Memory :=
  Vector.replicate memorySize 0

def read (mem : Memory) (addr : UInt16) : UInt8 :=
  mem[slot addr]

/-- The sixteen-bit word at an address, high byte first. -/
def readWord (mem : Memory) (addr : UInt16) : UInt16 :=
  (mem.read addr).toUInt16 <<< 8 ||| (mem.read (addr + 1)).toUInt16

def write (mem : Memory) (addr : UInt16) (value : UInt8) : Memory :=
  mem.set (slot addr) value

/-- Copies bytes to the places from `start` on; those past the end of memory are dropped. -/
def load (mem : Memory) (start : Nat) : List UInt8 → Memory
  | [] => mem
  | b :: bytes => load (mem.setIfInBounds start b) (start + 1) bytes

/-- Only the low twelve bits of an address count. -/
@[simp] theorem read_address (mem : Memory) (addr : UInt16) :
    mem.read (address addr) = mem.read addr := by
  have hslot : slot (address addr) = slot addr := by simp [Fin.ext_iff]
  exact congrArg (fun i : Fin memorySize => mem[i]) hslot

theorem toNat_readWord (mem : Memory) (addr : UInt16) :
    (mem.readWord addr).toNat = 256 * (mem.read addr).toNat + (mem.read (addr + 1)).toNat := by
  have hhigh := (mem.read addr).toNat_lt
  have hlow := (mem.read (addr + 1)).toNat_lt
  have hshift : ((mem.read addr).toUInt16 <<< 8).toNat = (mem.read addr).toNat <<< 8 := by
    rw [UInt16.toNat_shiftLeft]
    simp only [UInt8.toNat_toUInt16, UInt16.reduceToNat, Nat.reduceMod, Nat.shiftLeft_eq]
    omega
  rw [readWord, UInt16.toNat_or, hshift, UInt8.toNat_toUInt16,
    ← Nat.shiftLeft_add_eq_or_of_lt hlow, Nat.shiftLeft_eq]
  omega

theorem read_write (mem : Memory) (a b : UInt16) (value : UInt8) :
    (mem.write a value).read b = if slot a = slot b then value else mem.read b := by
  simp [read, write, Vector.getElem_set, Fin.ext_iff]

end Memory

end Chip8
