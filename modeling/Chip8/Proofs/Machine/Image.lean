import Chip8.Machine.Build
import Mathlib.Data.List.GetD
import Mathlib.Tactic.SplitIfs

/-!
What is in memory when a machine is built: the font, the program behind it, and zeros. A font that
fits ends before the program begins, so no byte of one overwrites the other, and every address has
its byte from exactly one of them (`read_image`).
-/

namespace Chip8

namespace Memory

theorem read_setIfInBounds (mem : Memory) (i : Nat) (b : UInt8) (addr : UInt16) :
    Memory.read (mem.setIfInBounds i b) addr =
      if i = addr.toNat % 4096 then b else mem.read addr := by
  simp [read, Vector.getElem_setIfInBounds]

theorem read_load (mem : Memory) (start : Nat) (bytes : List UInt8) (addr : UInt16) :
    (mem.load start bytes).read addr =
      if start ≤ addr.toNat % 4096 ∧ addr.toNat % 4096 < start + bytes.length then
        bytes.getD (addr.toNat % 4096 - start) 0
      else mem.read addr := by
  induction bytes generalizing mem start with
  | nil => rw [load, if_neg (by simp)]
  | cons b bytes ih =>
      rw [load, ih, read_setIfInBounds, List.length_cons]
      rcases Nat.lt_trichotomy (addr.toNat % 4096) start with hlt | heq | hgt
      · rw [if_neg (by omega), if_neg (by omega), if_neg (by omega)]
      · rw [if_neg (by omega), if_pos heq.symm, if_pos (by omega), heq, Nat.sub_self]
        rfl
      · obtain ⟨d, hd⟩ : ∃ d, addr.toNat % 4096 - start = d + 1 :=
          ⟨addr.toNat % 4096 - start - 1, by omega⟩
        have hrest : addr.toNat % 4096 - (start + 1) = d := by omega
        rw [hd, hrest, List.getD_cons_succ, if_neg (by omega : ¬ start = addr.toNat % 4096)]
        by_cases hin : addr.toNat % 4096 < start + 1 + bytes.length
        · rw [if_pos ⟨hgt, hin⟩, if_pos (by omega)]
        · rw [if_neg (fun h => hin h.2), if_neg (by omega)]

end Memory

namespace Blueprint

variable {b : Blueprint}

theorem read_image (hfont : b.font.length ≤ Font.maxSize) (addr : UInt16) :
    b.image.read addr =
      if 0x200 ≤ addr.toNat % 4096 then b.program.getD (addr.toNat % 4096 - 0x200) 0
      else if 0x50 ≤ addr.toNat % 4096 then b.font.getD (addr.toNat % 4096 - 0x50) 0
      else 0 := by
  have hfont' : b.font.length ≤ 80 := hfont
  have hblank : Memory.blank.read addr = 0 := by simp [Memory.read, Memory.blank]
  show ((Memory.blank.load 0x50 b.font).load 0x200 b.program).read addr = _
  rw [Memory.read_load, Memory.read_load, hblank]
  by_cases hprogram : 0x200 ≤ addr.toNat % 4096
  · rw [if_pos hprogram, if_neg (by omega : ¬ (0x50 ≤ addr.toNat % 4096 ∧ _))]
    split_ifs with hin
    · rfl
    · rw [List.getD_eq_default _ _ (by omega)]
  · rw [if_neg (fun h => hprogram h.1), if_neg hprogram]
    by_cases hglyph : 0x50 ≤ addr.toNat % 4096
    · rw [if_pos hglyph]
      split_ifs with hin
      · rfl
      · rw [List.getD_eq_default _ _ (by omega)]
    · rw [if_neg (fun h => hglyph h.1), if_neg hglyph]

/-- The word that begins at byte `i` of the program. -/
theorem readWord_image (hfont : b.font.length ≤ Font.maxSize) {i : Nat}
    (hi : 0x200 + i + 1 < 4096) :
    b.image.readWord (programAddr + UInt16.ofNat i) =
      (b.program.getD i 0).toUInt16 <<< 8 ||| (b.program.getD (i + 1) 0).toUInt16 := by
  have hlow : (programAddr + UInt16.ofNat i).toNat % 4096 = 0x200 + i := by
    rw [UInt16.toNat_add, UInt16.toNat_ofNat']
    show (0x200 + i % 65536) % 65536 % 4096 = _
    omega
  have hhigh : (programAddr + UInt16.ofNat i + 1).toNat % 4096 = 0x200 + (i + 1) := by
    rw [UInt16.toNat_add, UInt16.toNat_add, UInt16.toNat_ofNat']
    show ((0x200 + i % 65536) % 65536 + 1) % 65536 % 4096 = _
    omega
  rw [Memory.readWord, read_image hfont, read_image hfont, hlow, hhigh, if_pos (by omega),
    if_pos (by omega), Nat.add_sub_cancel_left, Nat.add_sub_cancel_left]

end Blueprint

end Chip8
