import Chip8.Proofs.Instruction.Decoding
import Chip8.Proofs.Instruction.Patterns

/-!
Words and instructions are the same thing in two forms. `encode` writes an instruction as its
pattern asks, and `decode?` reads it back; whatever `decode?` reads, `encode` writes again. So the
words that are instructions and the instructions that are well formed answer to each other, one to
one.
-/

namespace Chip8.Instruction

/-! ### The fields of a word, as numbers -/

theorem val_nibble_one (word : UInt16) :
    (Opcode.nibble word 1).val = word.toNat / 256 % 16 := by
  simp [Opcode.nibble, Fin.ofNat, Nat.shiftRight_eq_div_pow]

theorem val_nibble_two (word : UInt16) :
    (Opcode.nibble word 2).val = word.toNat / 16 % 16 := by
  simp [Opcode.nibble, Fin.ofNat, Nat.shiftRight_eq_div_pow]

theorem val_nibble_three (word : UInt16) : (Opcode.nibble word 3).val = word.toNat % 16 := rfl

theorem toNat_lowByte (word : UInt16) : (Opcode.lowByte word).toNat = word.toNat % 256 := rfl

variable {f n : Nat} {x y : Nibble} {i : Instruction}

theorem toNat_addressWord {nnn : UInt16} (hf : f < 16) (h : nnn.toNat < 4096) :
    (addressWord f nnn).toNat = 4096 * f + nnn.toNat := by
  rw [addressWord, UInt16.toNat_ofNat']
  omega

theorem toNat_byteWord {nn : Nat} (hf : f < 16) (h : nn < 256) :
    (byteWord f x nn).toNat = 4096 * f + 256 * x.val + nn := by
  rw [byteWord, UInt16.toNat_ofNat']
  omega

theorem toNat_nibbleWord (hf : f < 16) (hn : n < 16) :
    (nibbleWord f x y n).toNat = 4096 * f + 256 * x.val + 16 * y.val + n := by
  rw [nibbleWord, UInt16.toNat_ofNat']
  omega

/-! ### Writing what was read -/

theorem toNat_encode_of_decodeArithmetic? {n : Nibble}
    (h : decodeArithmetic? x y n = some i) :
    i.encode.toNat = 4096 * 0x8 + 256 * x.val + 16 * y.val + n.val := by
  unfold decodeArithmetic? at h
  split at h <;> cases h <;> exact (toNat_nibbleWord (by decide) (by decide)).trans (by omega)

theorem toNat_encode_of_decodeKey? {nn : UInt8} (h : decodeKey? x nn = some i) :
    i.encode.toNat = 4096 * 0xE + 256 * x.val + nn.toNat := by
  unfold decodeKey? at h
  split at h <;> cases h <;> exact (toNat_byteWord (by decide) (by decide)).trans (by omega)

theorem toNat_encode_of_decodeMisc? {nn : UInt8} (h : decodeMisc? x nn = some i) :
    i.encode.toNat = 4096 * 0xF + 256 * x.val + nn.toNat := by
  unfold decodeMisc? at h
  split at h <;> cases h <;> exact (toNat_byteWord (by decide) (by decide)).trans (by omega)

theorem toNat_encode_of_ofFields? {family n : Nibble} {nn : UInt8} {nnn : UInt16}
    (hnn : nn.toNat = 16 * y.val + n.val) (hnnn : nnn.toNat = 256 * x.val + nn.toNat)
    (h : ofFields? family x y n nn nnn = some i) :
    i.encode.toNat = 4096 * family.val + nnn.toNat := by
  have hx := x.isLt
  have hbyte := nn.toNat_lt
  have hzero (hn : n = 0) : n.val = 0 := congrArg Fin.val hn
  unfold ofFields? at h
  split at h
  case h_1 hfamily =>
    split_ifs at h with hclear hret <;> cases h
    · rw [hclear, hfamily]
      rfl
    · rw [hret, hfamily]
      rfl
    · rw [hfamily]
      exact toNat_addressWord (by decide) (by omega)
  case h_6 | h_10 =>
    split_ifs at h with hn
    cases h
    exact (toNat_nibbleWord (by decide) (by decide)).trans (by have := hzero hn; omega)
  case h_9 => exact (toNat_encode_of_decodeArithmetic? h).trans (by omega)
  case h_14 => cases h; exact (toNat_nibbleWord (by decide) n.isLt).trans (by omega)
  case h_15 => exact (toNat_encode_of_decodeKey? h).trans (by omega)
  case h_16 =>
    have hfamily : family.val = 0xF := by
      have hlt := family.isLt
      simp only [imp_false] at *
      omega
    exact (toNat_encode_of_decodeMisc? h).trans (by omega)
  case h_4 | h_5 | h_7 | h_8 | h_13 =>
    cases h
    exact (toNat_byteWord (by decide) hbyte).trans (by omega)
  all_goals
    cases h
    exact (toNat_addressWord (by decide) (by omega)).trans (by omega)

theorem encode_of_decode? {word : UInt16} (h : decode? word = some i) : i.encode = word := by
  have hword := word.toNat_lt
  have hencode := toNat_encode_of_ofFields?
    (by rw [toNat_lowByte, val_nibble_two, val_nibble_three]; omega)
    (by rw [toNat_address, val_nibble_one, toNat_lowByte]; omega) h
  rw [val_nibble_zero, toNat_address] at hencode
  apply UInt16.toNat_inj.1
  omega

/-! ### Reading what was written -/

theorem decode?_addressWord {nnn : UInt16} (hf : f < 16) (hnnn : nnn.toNat < 4096)
    (h : ∀ x y n nn, ofFields? ⟨f, hf⟩ x y n nn nnn = some i) :
    decode? (addressWord f nnn) = some i := by
  have hword := toNat_addressWord hf hnnn
  have hfamily : Opcode.nibble (addressWord f nnn) 0 = ⟨f, hf⟩ := by
    apply Fin.ext
    rw [val_nibble_zero, hword]
    show _ = f
    omega
  have haddress : address (addressWord f nnn) = nnn := by
    apply UInt16.toNat_inj.1
    rw [toNat_address, hword]
    omega
  rw [decode?, hfamily, haddress]
  exact h _ _ _ _

theorem decode?_byteWord {nn : Nat} (hf : f < 16) (hnn : nn < 256)
    (h : ∀ y n nnn, ofFields? ⟨f, hf⟩ x y n (UInt8.ofNat nn) nnn = some i) :
    decode? (byteWord f x nn) = some i := by
  have hword := toNat_byteWord (x := x) hf hnn
  have hfamily : Opcode.nibble (byteWord f x nn) 0 = ⟨f, hf⟩ := by
    apply Fin.ext
    rw [val_nibble_zero, hword]
    show _ = f
    omega
  have hx : Opcode.nibble (byteWord f x nn) 1 = x := by
    apply Fin.ext
    rw [val_nibble_one, hword]
    omega
  have hlow : Opcode.lowByte (byteWord f x nn) = UInt8.ofNat nn := by
    apply UInt8.toNat_inj.1
    rw [toNat_lowByte, hword, UInt8.toNat_ofNat']
    omega
  rw [decode?, hfamily, hx, hlow]
  exact h _ _ _

theorem decode?_nibbleWord (hf : f < 16) (hn : n < 16)
    (h : ∀ nn nnn, ofFields? ⟨f, hf⟩ x y ⟨n, hn⟩ nn nnn = some i) :
    decode? (nibbleWord f x y n) = some i := by
  have hword := toNat_nibbleWord (x := x) (y := y) hf hn
  have hfamily : Opcode.nibble (nibbleWord f x y n) 0 = ⟨f, hf⟩ := by
    apply Fin.ext
    rw [val_nibble_zero, hword]
    show _ = f
    omega
  have hx : Opcode.nibble (nibbleWord f x y n) 1 = x := by
    apply Fin.ext
    rw [val_nibble_one, hword]
    omega
  have hy : Opcode.nibble (nibbleWord f x y n) 2 = y := by
    apply Fin.ext
    rw [val_nibble_two, hword]
    omega
  have hlast : Opcode.nibble (nibbleWord f x y n) 3 = ⟨n, hn⟩ := by
    apply Fin.ext
    rw [val_nibble_three, hword]
    show _ = n
    omega
  rw [decode?, hfamily, hx, hy, hlast]
  exact h _ _

theorem decode?_encode (h : i.WellFormed) : decode? i.encode = some i := by
  cases i with
  | clear | ret => rfl
  | sys nnn =>
      obtain ⟨hnnn, hclear, hret⟩ := h
      refine decode?_addressWord (by decide) hnnn fun _ _ _ _ => ?_
      show some (if nnn = 0x0E0 then clear else if nnn = 0x0EE then ret else sys nnn) = _
      rw [if_neg hclear, if_neg hret]
  | jump nnn | call nnn | loadIndex nnn | jumpOffset nnn =>
      exact decode?_addressWord (by decide) h fun _ _ _ _ => rfl
  | skipEqImm x nn | skipNeImm x nn | loadImm x nn | addImm x nn | random x nn =>
      refine decode?_byteWord (by decide) nn.toNat_lt fun _ _ _ => ?_
      rw [UInt8.ofNat_toNat]
      rfl
  | skipKey x | skipNotKey x | loadDelay x | waitKey x | setDelay x | setSound x | addIndex x
  | loadGlyph x | storeBcd x | storeRegs x | loadRegs x =>
      exact decode?_byteWord (by decide) (by decide) fun _ _ _ => rfl
  | draw x y n => exact decode?_nibbleWord (by decide) n.isLt fun _ _ => rfl
  | skipEqReg x y | loadReg x y | or x y | and x y | xor x y | addReg x y | subReg x y
  | shiftRight x y | subFromReg x y | shiftLeft x y | skipNeReg x y =>
      exact decode?_nibbleWord (by decide) (by decide) fun _ _ => rfl

end Chip8.Instruction
