import Chip8.Proofs.Machine.Run

/-!
Sums, differences and shifts. A result has eight bits, and the bit that does not fit, or that had
to be borrowed, is reported in VF. Together the two say what the number would have been without a
limit (`Balances`). That has to be so for any choice of registers, VF among them and one register
twice, which comes down to when what is read and written: the operands before anything else, and
VF last.
-/

namespace Chip8

namespace Instruction

/-- The registers X and Y of an instruction with a result in VX and a bit in VF. -/
def operands? : Instruction → Option (Nibble × Nibble)
  | .addReg x y | .subReg x y | .subFromReg x y | .shiftRight x y | .shiftLeft x y => some (x, y)
  | _ => none

/-- What the result `r` and the bit `f` in VF are together. Before, `a` is in VX and `b` in VY; a
shift takes `s`. -/
def Balances (a b s r f : Int) : Instruction → Prop
  | .addReg .. => 256 * f + r = a + b
  | .subReg .. => r = a - b + 256 * (1 - f)
  | .subFromReg .. => r = b - a + 256 * (1 - f)
  | .shiftRight .. => 2 * r + f = s
  | .shiftLeft .. => 256 * f + r = 2 * s
  | _ => False

end Instruction

/-! ### Bytes with a ninth bit -/

theorem toNat_toUInt8 (bit : Bool) : bit.toUInt8.toNat = bit.toNat := by
  cases bit <;> rfl

theorem add_balance (a b : UInt8) :
    256 * ((decide (256 ≤ a.toNat + b.toNat)).toUInt8.toNat : Int) + (a + b).toNat =
      a.toNat + b.toNat := by
  have ha := a.toNat_lt
  have hb := b.toNat_lt
  rw [toNat_toUInt8, UInt8.toNat_add]
  by_cases h : 256 ≤ a.toNat + b.toNat
  · rw [decide_eq_true h, Bool.toNat_true]
    omega
  · rw [decide_eq_false h, Bool.toNat_false]
    omega

theorem sub_balance (a b : UInt8) :
    ((a - b).toNat : Int) =
      a.toNat - b.toNat + 256 * (1 - (decide (b ≤ a)).toUInt8.toNat) := by
  have ha := a.toNat_lt
  have hb := b.toNat_lt
  rw [toNat_toUInt8, UInt8.toNat_sub]
  by_cases h : b.toNat ≤ a.toNat
  · rw [decide_eq_true (show b ≤ a from h), Bool.toNat_true]
    omega
  · rw [decide_eq_false (show ¬ b ≤ a from h), Bool.toNat_false]
    omega

theorem shiftRight_balance (s : UInt8) :
    2 * ((s >>> 1).toNat : Int) + (s &&& 1).toNat = s.toNat := by
  rw [UInt8.toNat_shiftRight, UInt8.toNat_and, Nat.shiftRight_eq_div_pow]
  simp only [UInt8.reduceToNat, Nat.reduceMod, Nat.reducePow, Nat.and_one_is_mod]
  omega

theorem shiftLeft_balance (s : UInt8) :
    256 * ((s >>> 7).toNat : Int) + (s <<< 1).toNat = 2 * s.toNat := by
  have hs := s.toNat_lt
  rw [UInt8.toNat_shiftRight, UInt8.toNat_shiftLeft, Nat.shiftRight_eq_div_pow,
    Nat.shiftLeft_eq]
  simp only [UInt8.reduceToNat, Nat.reduceMod, Nat.reducePow]
  omega

theorem toNat_toUInt8_le (bit : Bool) : bit.toUInt8.toNat ≤ 1 := by
  cases bit <;> decide

theorem toNat_and_one_le (s : UInt8) : (s &&& 1).toNat ≤ 1 := by
  rw [UInt8.toNat_and]
  exact Nat.and_le_right

theorem toNat_shiftRight_seven_le (s : UInt8) : (s >>> 7).toNat ≤ 1 := by
  have hs := s.toNat_lt
  rw [UInt8.toNat_shiftRight, Nat.shiftRight_eq_div_pow]
  simp only [UInt8.reduceToNat, Nat.reduceMod, Nat.reducePow]
  omega

namespace Machine

variable {D : Type} {m : Machine D} {x y : Nibble}

/-! ### The flag last -/

theorem reg_setRegFlag (m : Machine D) (x k : Nibble) (value flagValue : UInt8) :
    (m.setRegFlag x value flagValue).reg k =
      if k = flag then flagValue else if k = x then value else m.reg k := by
  unfold setRegFlag
  by_cases hflag : k = flag
  · rw [if_pos hflag, hflag, reg_setReg_self]
  · rw [if_neg hflag, reg_setReg_of_ne _ (Ne.symm hflag)]
    by_cases hx : k = x
    · rw [if_pos hx, hx, reg_setReg_self]
    · rw [if_neg hx, reg_setReg_of_ne _ (Ne.symm hx)]

/-- A step that leaves a result in VX and a bit in VF, and does nothing else. If X is F, the bit is
what VF holds. -/
structure Computes (m : Machine D) (now : Nat) (x : Nibble) (r f : Nat) (outcome : Outcome D) : Prop
    extends OnlyRegs m now outcome where
  flag_eq : (outcome.2.reg flag).toNat = f
  result_eq : x ≠ flag → (outcome.2.reg x).toNat = r
  others : ∀ k, k ≠ x → k ≠ flag → outcome.2.reg k = m.reg k

theorem computes_setRegFlag (m : Machine D) (now : Nat) (x : Nibble) (value flagValue : UInt8) :
    Computes m now x value.toNat flagValue.toNat
      ((m.passed now).setRegFlag x value flagValue).done := by
  refine ⟨onlyRegs_done m now _, ?_, fun hx => ?_, fun k hx hflag => ?_⟩
  · rw [done_snd, reg_setRegFlag, if_pos rfl]
  · rw [done_snd, reg_setRegFlag, if_neg hx, if_pos rfl]
  · rw [done_snd, reg_setRegFlag, if_neg hflag, if_neg hx]
    rfl

theorem shiftSource_eq (m : Machine D) (x y : Nibble) :
    m.shiftSource x y = if m.compat.mode = .cosmacVip then m.reg y else m.reg x := by
  unfold shiftSource
  cases m.compat.mode <;> rfl

variable [Display D]

/-- Sums, differences and shifts, whatever registers X and Y are and whatever is in them. -/
theorem computes_balanced {i : Instruction} (h : m.instruction? = some i)
    (hi : i.operands? = some (x, y)) (now : Nat) :
    let s := if m.compat.mode = .cosmacVip then m.reg y else m.reg x
    ∃ r f : Nat, r < 256 ∧ f ≤ 1 ∧
      i.Balances (m.reg x).toNat (m.reg y).toNat s.toNat r f ∧
      Computes m now x r f (m.stepAt now) := by
  intro s
  have hs : m.shiftSource x y = s := shiftSource_eq m x y
  rw [stepAt_eq_execute h]
  cases i with
  | addReg x y =>
      cases hi
      exact ⟨_, _, UInt8.toNat_lt _, toNat_toUInt8_le _, add_balance _ _,
        computes_setRegFlag m now x _ _⟩
  | subReg x y =>
      cases hi
      exact ⟨_, _, UInt8.toNat_lt _, toNat_toUInt8_le _, sub_balance _ _,
        computes_setRegFlag m now x _ _⟩
  | subFromReg x y =>
      cases hi
      exact ⟨_, _, UInt8.toNat_lt _, toNat_toUInt8_le _, sub_balance _ _,
        computes_setRegFlag m now x _ _⟩
  | shiftRight x y =>
      cases hi
      rw [← hs]
      exact ⟨_, _, UInt8.toNat_lt _, toNat_and_one_le _, shiftRight_balance _,
        computes_setRegFlag m now x _ _⟩
  | shiftLeft x y =>
      cases hi
      rw [← hs]
      exact ⟨_, _, UInt8.toNat_lt _, toNat_shiftRight_seven_le _, shiftLeft_balance _,
        computes_setRegFlag m now x _ _⟩
  | _ => cases hi

/-- Adds VF to itself. -/
def doublesFlag : Blueprint :=
  { program := [0x6F, 0xC8, 0x8F, 0xF4], gated := false }

/-- Twice 200 is 144 and a carry, which is all that is left. -/
theorem computes_balanced_doublesFlag :
    let m := (doublesFlag.machine {} (FrameBuffer.new ⟨8, 4⟩) ⟨8, 4⟩).play [.step 0]
    m.Reachable ∧ m.instruction? = some (.addReg flag flag) ∧
      (Instruction.addReg flag flag).operands? = some (flag, flag) ∧
      (m.reg flag).toNat = 200 ∧ ((m.stepAt 1).2.reg flag).toNat = 1 := by
  intro m
  have hbuild : doublesFlag.build {} (FrameBuffer.new ⟨8, 4⟩) =
    .ok (doublesFlag.machine {} (FrameBuffer.new ⟨8, 4⟩) ⟨8, 4⟩) := rfl
  have hrun : m.instruction? = some (.addReg flag flag) ∧ (m.reg flag).toNat = 200 := by
    decide +kernel
  obtain ⟨hadd, hvalue⟩ := hrun
  obtain ⟨r, f, hr, -, hbalance, hcomputes⟩ := computes_balanced hadd rfl 1
  have hsum : 256 * (f : Int) + r = (m.reg flag).toNat + (m.reg flag).toNat := hbalance
  refine ⟨(Reachable.built rfl hbuild).play _, hadd, rfl, hvalue, ?_⟩
  rw [hcomputes.flag_eq]
  omega

end Machine

end Chip8
