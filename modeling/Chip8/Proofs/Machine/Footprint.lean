import Chip8.Proofs.Machine.Effect
import Chip8.Proofs.Machine.Rows

/-!
Footprints: what an instruction *cannot* have changed, read off its constructor.

Which registers an instruction may write, how many bytes it may store, whether it moves I, draws,
asks for a key or jumps, are functions of the instruction alone. Each field of the machine has one
theorem that turns the answer into an equation for the field after `execute`. Errors need no case
of their own: an instruction that fails has the footprint of one that ends well.
-/

namespace Chip8

namespace Instruction

/-- The register X that the instruction writes its result to. -/
def target? : Instruction → Option Nibble
  | .loadImm x _ | .addImm x _ | .loadReg x _ | .or x _ | .and x _ | .xor x _
  | .addReg x _ | .subReg x _ | .subFromReg x _ | .shiftRight x _ | .shiftLeft x _
  | .random x _ | .loadDelay x | .waitKey x => some x
  | _ => none

/-- Whether the instruction says in VF how it went. -/
def reports : Instruction → Bool
  | .addReg .. | .subReg .. | .subFromReg .. | .shiftRight .. | .shiftLeft .. | .draw .. => true
  | _ => false

/-- Whether the instruction may write register `k`. -/
def mayWrite (k : Nibble) : Instruction → Bool
  | .loadRegs x => k ≤ x
  | i => i.target? = some k ∨ i.reports ∧ k = Machine.flag

/-- How many bytes are stored, from I on. -/
def storeCount : Instruction → Nat
  | .storeBcd _ => 3
  | .storeRegs x => x + 1
  | _ => 0

/-- Whether the instruction writes I. -/
def movesIndex : Instruction → Bool
  | .loadIndex _ | .addIndex _ | .loadGlyph _ => true
  | _ => false

def setsDelay : Instruction → Bool
  | .setDelay _ => true
  | _ => false

def setsSound : Instruction → Bool
  | .setSound _ => true
  | _ => false

/-- Whether the instruction draws a random word. -/
def rolls : Instruction → Bool
  | .random .. => true
  | _ => false

/-- Whether the instruction touches pixels. -/
def draws : Instruction → Bool
  | .clear | .draw .. => true
  | _ => false

/-- Whether the instruction asks for the held key. -/
def polls : Instruction → Bool
  | .skipKey _ | .skipNotKey _ | .waitKey _ => true
  | _ => false

/-- Whether the instruction goes on somewhere else than behind itself. -/
def jumps : Instruction → Bool
  | .jump _ | .call _ | .ret | .jumpOffset _ => true
  | _ => false

end Instruction

namespace Machine

open Instruction

/-! ### Field by field -/

variable {D : Type}

theorem indexAfter_of_stays (m : Machine D) {i : Instruction} (h : i.movesIndex = false) :
    m.indexAfter i = m.index := by
  cases i with
  | loadIndex | addIndex | loadGlyph => cases h
  | _ => rfl

theorem read_memoryAfter_of_ne (m : Machine D) {i : Instruction} {a : UInt16}
    (h : ∀ k < i.storeCount, slot (m.index + UInt16.ofNat k) ≠ slot a) :
    (m.memoryAfter i).read a = m.memory.read a := by
  cases i with
  | storeBcd x =>
      show (m.storeBcd x).memory.read a = m.memory.read a
      rw [storeBcd_eq_writeRow]
      exact Memory.read_writeRow_of_ne h
  | storeRegs x =>
      show (storeFirst m.memory m.regs m.index (x + 1)).read a = m.memory.read a
      rw [storeFirst_eq_writeRow]
      exact Memory.read_writeRow_of_ne h
  | _ => rfl

theorem delay_timersAfter (m : Machine D) {i : Instruction} (h : i.setsDelay = false) :
    (m.timersAfter i).delay = m.timers.delay := by
  cases i with
  | setDelay => cases h
  | _ => rfl

theorem sound_timersAfter (m : Machine D) {i : Instruction} (h : i.setsSound = false) :
    (m.timersAfter i).sound = m.timers.sound := by
  cases i with
  | setSound => cases h
  | _ => rfl

theorem randomAfter_eq (m : Machine D) (i : Instruction) :
    m.randomAfter i = if i.rolls then m.random.advance else m.random := by
  cases i <;> rfl

variable [Display D]

theorem displayAfter_of_not_draws (m : Machine D) {i : Instruction} (h : i.draws = false) :
    m.displayAfter i = if i.polls then (Display.pollKey m.display).2 else m.display := by
  cases i with
  | clear | draw => cases h
  | _ => rfl

theorem pcAfter_of_not_jumps (m : Machine D) {i : Instruction} (h : i.jumps = false) :
    m.pcAfter i =
      if m.skips i then address (m.pc + 2)
      else if m.waits i then address (m.pc - 2)
      else m.pc := by
  cases i with
  | jump | call | ret | jumpOffset => cases h
  | _ => rfl

theorem reg_execute_of_not_mayWrite (m : Machine D) {i : Instruction} {k : Nibble}
    (h : i.mayWrite k = false) : (m.execute i).2.reg k = m.reg k := by
  cases i with
  | loadRegs x =>
      have hlt : x < k := by simpa [mayWrite] using h
      exact (get_loadFirst x.isLt k).trans (if_neg (Nat.not_lt.2 (Nat.succ_le_of_lt hlt)))
  | addReg x | subReg x | subFromReg x | shiftRight x | shiftLeft x =>
      -- The result is written first and the flag last, and register `k` is neither.
      have hne : x ≠ k ∧ k ≠ flag := by simpa [mayWrite, target?, reports] using h
      exact (reg_setReg_of_ne _ (Ne.symm hne.2) _).trans (reg_setReg_of_ne m hne.1 _)
  | draw x y n =>
      have hne : flag ≠ k := by simpa [mayWrite, target?, reports, eq_comm] using h
      rw [execute, draw_eq, finish_snd]
      exact reg_setReg_of_ne m hne _
  | loadImm x | addImm x | loadReg x | or x | and x | xor x | random x | loadDelay x =>
      have hne : x ≠ k := by simpa [mayWrite, target?, reports] using h
      exact reg_setReg_of_ne m hne _
  | waitKey x =>
      have hne : x ≠ k := by simpa [mayWrite, target?, reports] using h
      rw [execute, waitKey_eq]
      cases (Display.pollKey m.display).1 with
      | none => rfl
      | some key => exact reg_setReg_of_ne m hne _
  | clear => rw [execute, clearScreen_eq, finish_snd]; rfl
  | call nnn => rw [execute, call_snd]; rfl
  | ret => rw [execute, ret_snd]; rfl
  | skipEqImm | skipNeImm | skipEqReg | skipNeReg => rw [execute, skipIf_eq]; rfl
  | skipKey | skipNotKey => rw [execute, withKey_eq, skipIf_eq]; rfl
  | _ => rfl

end Machine

end Chip8
