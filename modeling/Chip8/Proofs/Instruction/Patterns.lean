import Chip8.Instruction.Basic
import Chip8.Text.Hex
import Mathlib.Data.List.Forall2
import Mathlib.Tactic.IntervalCases
import Mathlib.Tactic.SplitIfs

/-!
The words that are instructions, told by their digits. A manual writes the words of an instruction
as a pattern, in which letters stand for the operands. `decode?` takes a word apart and looks at
one field after the other; what it accepts are the words that some pattern fits
(`isSome_decode?_iff`).
-/

namespace Chip8.Instruction

/-- The patterns of the words that are instructions. A hexadecimal digit stands for itself, and
each other letter for a digit that an operand decides. -/
def patterns : List String := [
  "0NNN", "1NNN", "2NNN", "3XNN", "4XNN", "5XY0", "6XNN", "7XNN",
  "8XY0", "8XY1", "8XY2", "8XY3", "8XY4", "8XY5", "8XY6", "8XY7", "8XYE",
  "9XY0", "ANNN", "BNNN", "CXNN", "DXYN", "EX9E", "EXA1",
  "FX07", "FX0A", "FX15", "FX18", "FX1E", "FX29", "FX33", "FX55", "FX65"]

/-- Whether a word has the digits that a pattern asks for. -/
def Fits (pattern : String) (word : UInt16) : Prop :=
  List.Forall₂ (fun letter digit => (Text.hexValue? letter).all (digit = ·)) pattern.toList
    (Text.nibbles 4 word.toNat)

instance (pattern : String) (word : UInt16) : Decidable (Fits pattern word) :=
  inferInstanceAs (Decidable (List.Forall₂ ..))

/-! ### The fields of a word -/

/-- The digits of a word are its nibbles. -/
theorem nibbles_toNat (word : UInt16) : Text.nibbles 4 word.toNat =
    [(Opcode.nibble word 0).val, (Opcode.nibble word 1).val, (Opcode.nibble word 2).val,
      (Opcode.nibble word 3).val] := by
  have hlast : (Opcode.nibble word 3).val = word.toNat % 16 := rfl
  rw [hlast]
  simp [Text.nibbles, Opcode.nibble, Fin.ofNat, Nat.shiftRight_eq_div_pow,
    Nat.div_div_eq_div_mul]

theorem val_nibble_zero (word : UInt16) : (Opcode.nibble word 0).val = word.toNat / 4096 := by
  have hlt := word.toNat_lt
  simp [Opcode.nibble, Fin.ofNat, Nat.shiftRight_eq_div_pow]
  omega

theorem toNat_lowByte_eq_iff {word : UInt16} {k : Nat} :
    (Opcode.lowByte word).toNat = k ↔
      (Opcode.nibble word 2).val = k / 16 ∧ (Opcode.nibble word 3).val = k % 16 := by
  have hlow : (Opcode.lowByte word).toNat = word.toNat % 256 := rfl
  have hy : (Opcode.nibble word 2).val = word.toNat / 16 % 16 := by
    simp [Opcode.nibble, Fin.ofNat, Nat.shiftRight_eq_div_pow]
  have hn : (Opcode.nibble word 3).val = word.toNat % 16 := rfl
  omega

/-- A pattern is compared digit by digit. -/
theorem fits_iff {pattern : String} {a b c d : Char} (h : pattern.toList = [a, b, c, d])
    {word : UInt16} :
    Fits pattern word ↔
      (Text.hexValue? a).all ((Opcode.nibble word 0).val = ·) ∧
      (Text.hexValue? b).all ((Opcode.nibble word 1).val = ·) ∧
      (Text.hexValue? c).all ((Opcode.nibble word 2).val = ·) ∧
      (Text.hexValue? d).all ((Opcode.nibble word 3).val = ·) := by
  simp only [Fits, h, nibbles_toNat, List.forall₂_cons, List.Forall₂.nil, and_true]

/-- A digit in a pattern is the only one that fits. -/
theorem eq_of_hexValue? {letter : Char} {digit value : Nibble}
    (h : (Text.hexValue? letter).all (digit.val = ·))
    (hvalue : Text.hexValue? letter = some value.val) : digit = value := by
  rw [hvalue, Option.all_some] at h
  exact Fin.ext (of_decide_eq_true h)

/-! ### The families with a last field of their own -/

theorem isSome_decodeArithmetic?_iff {x y n : Nibble} :
    (decodeArithmetic? x y n).isSome ↔ n.val ∈ [0, 1, 2, 3, 4, 5, 6, 7, 14] := by
  unfold decodeArithmetic?
  split <;> simp_all

theorem isSome_decodeKey?_iff {x : Nibble} {nn : UInt8} :
    (decodeKey? x nn).isSome ↔ nn.toNat ∈ [0x9E, 0xA1] := by
  unfold decodeKey?
  split <;> simp_all

theorem isSome_decodeMisc?_iff {x : Nibble} {nn : UInt8} :
    (decodeMisc? x nn).isSome ↔
      nn.toNat ∈ [0x07, 0x0A, 0x15, 0x18, 0x1E, 0x29, 0x33, 0x55, 0x65] := by
  unfold decodeMisc?
  split <;> simp_all

theorem isSome_decode?_iff (word : UInt16) :
    (decode? word).isSome ↔ ∃ pattern ∈ patterns, Fits pattern word := by
  have hlow := @toNat_lowByte_eq_iff word
  -- The patterns are worked out once, before the families are told apart.
  generalize hdecoded : (decode? word).isSome = decoded
  simp only [patterns, Fits, nibbles_toNat, List.mem_cons, List.not_mem_nil, or_false,
    exists_eq_or_imp, exists_eq_left, String.reduceToList, List.forall₂_cons,
    List.forall₂_nil_right_iff, Text.hexValue?, Char.reduceLE, Char.reduceToNat, and_self,
    and_false, and_true, if_true, if_false, Option.all_some, Option.all_none, decide_eq_true_eq,
    Nat.reduceSub, true_and]
  subst hdecoded
  unfold decode? ofFields?
  generalize Opcode.nibble word 0 = family
  obtain ⟨family, hfamily⟩ := family
  interval_cases family
  all_goals
    simp [hlow, isSome_decodeArithmetic?_iff, isSome_decodeMisc?_iff, isSome_decodeKey?_iff]

/-! ### Two instructions by their words -/

/-- The first digit of the words of an instruction. -/
def leading : Instruction → Nat
  | .sys _ | .clear | .ret => 0x0
  | .jump _ => 0x1
  | .call _ => 0x2
  | .skipEqImm .. => 0x3
  | .skipNeImm .. => 0x4
  | .skipEqReg .. => 0x5
  | .loadImm .. => 0x6
  | .addImm .. => 0x7
  | .loadReg .. | .or .. | .and .. | .xor .. | .addReg .. | .subReg .. | .shiftRight ..
  | .subFromReg .. | .shiftLeft .. => 0x8
  | .skipNeReg .. => 0x9
  | .loadIndex _ => 0xA
  | .jumpOffset _ => 0xB
  | .random .. => 0xC
  | .draw .. => 0xD
  | .skipKey _ | .skipNotKey _ => 0xE
  | .loadDelay _ | .waitKey _ | .setDelay _ | .setSound _ | .addIndex _ | .loadGlyph _
  | .storeBcd _ | .storeRegs _ | .loadRegs _ => 0xF

theorem leading_of_ofFields? {family x y n : Nibble} {nn : UInt8} {nnn : UInt16}
    {i : Instruction} (h : ofFields? family x y n nn nnn = some i) : i.leading = family.val := by
  obtain ⟨family, hfamily⟩ := family
  interval_cases family
  case «0» =>
    have h : some (if nnn = 0x0E0 then clear else if nnn = 0x0EE then ret else sys nnn) = some i :=
      h
    split_ifs at h <;> cases h <;> rfl
  case «5» =>
    have h : (if n = 0 then some (skipEqReg x y) else none) = some i := h
    split_ifs at h
    cases h
    rfl
  case «9» =>
    have h : (if n = 0 then some (skipNeReg x y) else none) = some i := h
    split_ifs at h
    cases h
    rfl
  case «8» =>
    have h : decodeArithmetic? x y n = some i := h
    unfold decodeArithmetic? at h
    split at h <;> cases h <;> rfl
  case «14» =>
    have h : decodeKey? x nn = some i := h
    unfold decodeKey? at h
    split at h <;> cases h <;> rfl
  case «15» =>
    have h : decodeMisc? x nn = some i := h
    unfold decodeMisc? at h
    split at h <;> cases h <;> rfl
  all_goals
    cases h
    rfl

theorem leading_of_decode? {word : UInt16} {i : Instruction} (h : decode? word = some i) :
    i.leading = word.toNat / 4096 :=
  (leading_of_ofFields? h).trans (val_nibble_zero word)

theorem decode?_eq_ret_iff {word : UInt16} : decode? word = some .ret ↔ word = 0x00EE := by
  constructor
  · intro h
    have hzero : word.toNat / 4096 = 0 := (leading_of_decode? h).symm
    have hfamily : Opcode.nibble word 0 = 0 := Fin.ext ((val_nibble_zero word).trans hzero)
    have hret : some (if address word = 0x0E0 then clear else if address word = 0x0EE then ret
        else sys (address word)) = some ret := by
      rw [decode?, hfamily] at h
      exact h
    have haddr : address word = 0x0EE := by
      split_ifs at hret
      · cases hret
      · assumption
      · cases hret
    have hmod : word.toNat % 4096 = 0x0EE := by rw [← toNat_address, haddr]; rfl
    apply UInt16.toNat_inj.1
    show word.toNat = 0x0EE
    omega
  · rintro rfl
    rfl

theorem exists_decode?_eq_call_iff {word : UInt16} :
    (∃ nnn, decode? word = some (.call nnn)) ↔ Fits "2NNN" word := by
  have hfits : Fits "2NNN" word ↔ Opcode.nibble word 0 = 2 := by
    simp [Fits, nibbles_toNat, Text.hexValue?, Fin.ext_iff]
  rw [hfits]
  constructor
  · rintro ⟨nnn, h⟩
    exact Fin.ext (leading_of_ofFields? h).symm
  · intro h
    exact ⟨address word, by rw [decode?, h]; rfl⟩

end Chip8.Instruction
