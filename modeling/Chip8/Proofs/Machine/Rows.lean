import Chip8.Machine.Step

/-!
Rows of bytes. Behind the last byte of memory comes the first one, so a row may begin anywhere. As
long as it is not longer than memory its bytes have different slots (`eq_of_slot_eq`), none is
written twice, and what is read back is what was written.
-/

namespace Chip8

namespace Memory

/-- Writes a row of `n` bytes, the first one at `addr`. -/
def writeRow (mem : Memory) (addr : UInt16) (byte : Nat → UInt8) (n : Nat) : Memory :=
  (List.range n).foldl (fun mem k => mem.write (addr + UInt16.ofNat k) (byte k)) mem

variable {mem : Memory} {addr : UInt16} {byte : Nat → UInt8} {n k : Nat}

theorem eq_of_slot_eq {j : Nat} (hj : j < 4096) (hk : k < 4096)
    (h : slot (addr + UInt16.ofNat j) = slot (addr + UInt16.ofNat k)) : j = k := by
  have hmod := congrArg Fin.val h
  simp only [val_slot, UInt16.toNat_add, UInt16.toNat_ofNat'] at hmod
  omega

theorem write_read_self (mem : Memory) (a : UInt16) : mem.write a (mem.read a) = mem :=
  Vector.set_getElem_self (slot a).isLt

theorem writeRow_succ (mem : Memory) (addr : UInt16) (byte : Nat → UInt8) (n : Nat) :
    mem.writeRow addr byte (n + 1) =
      (mem.writeRow addr byte n).write (addr + UInt16.ofNat n) (byte n) := by
  simp only [writeRow, List.range_succ, List.foldl_append, List.foldl_cons, List.foldl_nil]

theorem read_writeRow_of_ne {a : UInt16} (h : ∀ k < n, slot (addr + UInt16.ofNat k) ≠ slot a) :
    (mem.writeRow addr byte n).read a = mem.read a := by
  induction n with
  | zero => rfl
  | succ n ih =>
      rw [writeRow_succ, read_write, if_neg (h n (Nat.lt_succ_self n))]
      exact ih fun k hk => h k (Nat.lt_succ_of_lt hk)

/-- What is written to a row is what is read from it. -/
theorem read_writeRow (hn : n ≤ 4096) (hk : k < n) :
    (mem.writeRow addr byte n).read (addr + UInt16.ofNat k) = byte k := by
  induction n with
  | zero => omega
  | succ n ih =>
      rw [writeRow_succ, read_write]
      by_cases hlast : n = k
      · subst hlast
        exact if_pos rfl
      · rw [if_neg fun h => hlast (eq_of_slot_eq (by omega) (by omega) h)]
        exact ih (by omega) (by omega)

/-- To write what is there already changes nothing. -/
theorem writeRow_of_read (h : ∀ k < n, byte k = mem.read (addr + UInt16.ofNat k)) :
    mem.writeRow addr byte n = mem := by
  induction n with
  | zero => rfl
  | succ n ih =>
      rw [writeRow_succ, ih fun k hk => h k (Nat.lt_succ_of_lt hk), h n (Nat.lt_succ_self n),
        write_read_self]

end Memory

namespace Machine

open Memory

variable {mem : Memory} {regs : Vector UInt8 16} {addr : UInt16} {n : Nat}

/-! ### Registers in a row

The instructions that store and load go through the registers one by one. The number of registers
is what the induction is on, so the statements speak of the first `n`. -/

theorem storeFirst_eq_writeRow (mem : Memory) (regs : Vector UInt8 16) (addr : UInt16) (n : Nat) :
    storeFirst mem regs addr n = mem.writeRow addr (fun k => regs.get (Fin.ofNat 16 k)) n := rfl

theorem loadFirst_succ (mem : Memory) (regs : Vector UInt8 16) (addr : UInt16) (n : Nat) :
    loadFirst mem regs addr (n + 1) =
      (loadFirst mem regs addr n).set (Fin.ofNat 16 n) (mem.read (addr + UInt16.ofNat n))
        (Fin.ofNat 16 n).isLt := by
  simp only [loadFirst, List.range_succ, List.foldl_append]
  rfl

theorem get_loadFirst (hn : n ≤ 16) (k : Nibble) :
    (loadFirst mem regs addr n).get k =
      if k < n then mem.read (addr + UInt16.ofNat k) else regs.get k := by
  induction n with
  | zero => rfl
  | succ n ih =>
      have hval : (Fin.ofNat 16 n).val = n := Nat.mod_eq_of_lt (by omega)
      rw [loadFirst_succ]
      refine (Vector.getElem_set _ k.isLt).trans ?_
      rw [hval]
      by_cases hlast : n = k.val
      · rw [if_pos hlast, if_pos (by omega), hlast]
      · have hlt : k.val < n + 1 ↔ k.val < n := by omega
        rw [if_neg hlast]
        simp only [hlt]
        exact ih (by omega)

/-- The digits of a byte in decimal: hundreds, tens and ones. -/
def digit (value : UInt8) : Nat → UInt8
  | 0 => value / 100
  | 1 => value / 10 % 10
  | _ => value % 10

theorem digit_sum (value : UInt8) :
    100 * (digit value 0).toNat + 10 * (digit value 1).toNat + (digit value 2).toNat =
      value.toNat := by
  simp only [digit, UInt8.toNat_div, UInt8.toNat_mod, UInt8.reduceToNat]
  omega

theorem digit_le (value : UInt8) (k : Nat) : (digit value k).toNat ≤ 9 := by
  have hlt := value.toNat_lt
  unfold digit
  split
  all_goals
    simp only [UInt8.toNat_div, UInt8.toNat_mod, UInt8.reduceToNat]
    omega

theorem storeBcd_eq_writeRow {D : Type} (m : Machine D) (x : Nibble) :
    m.storeBcd x = { m with memory := m.memory.writeRow m.index (digit (m.reg x)) 3 } := by
  have hzero : m.index + UInt16.ofNat 0 = m.index := UInt16.add_zero m.index
  simp only [storeBcd, writeRow, List.range_succ, List.range_zero, List.nil_append,
    List.foldl_append, List.foldl_cons, List.foldl_nil, hzero, digit]
  rfl

end Machine

end Chip8
