import Chip8.Proofs.Demo.Code

/-!
The built-in program as a machine of its own. It works with four registers, I, the delay timer and
the pixels; what else a machine has it neither reads nor writes. `next` is the program told in these
alone, place by place, and `Loaded.step_next` says that a machine which runs the program does just
that. What the program does over time is then shown of `next`.
-/

namespace Chip8.Demo

@[ext]
structure State where
  /-- V0: the digit. -/
  digit : UInt8
  /-- V1: its column. -/
  column : UInt8
  /-- V2: its row. -/
  row : UInt8
  /-- V3: what is left of the time, as it was last read. -/
  left : UInt8
  delay : UInt8
  index : UInt16
  lit : Nat → Nat → Bool

/-- What the program sees of a machine. -/
def look (m : Machine FrameBuffer) : State where
  digit := m.reg 0
  column := m.reg 1
  row := m.reg 2
  left := m.reg 3
  delay := m.timers.delay
  index := m.index
  lit := m.display.lit

namespace State

/-- The sprite that the program draws. -/
def sprite (b : Blueprint) (s : State) : Sprite where
  bytes := (List.range 5).map fun r => b.image.read (s.index + UInt16.ofNat r)
  x := s.column
  y := s.row

def flip (b : Blueprint) (size : DisplaySize) (s : State) : State :=
  { s with lit := fun row col =>
      s.lit row col ^^ (Dot.hits ((s.sprite b).dots b.compat size) row col).bodd }

end State

/-- The instruction at place `k`: where it goes on, and what it does. -/
def next (b : Blueprint) (size : DisplaySize) : Nat → State → Nat × State
  | 0, s => (1, { s with lit := fun _ _ => false })
  | 1, s => (2, { s with digit := 0 })
  | 2, s => (3, { s with column := 28 })
  | 3, s => (4, { s with row := 13 })
  | 4, s => (5, { s with index := fontAddr + 5 * (s.digit.toUInt16 &&& 0xF) })
  | 5, s => (6, s.flip b size)
  | 6, s => (7, { s with left := 30 })
  | 7, s => (8, { s with delay := s.left })
  | 8, s => (9, { s with left := s.delay })
  | 9, s => (if s.left = 0 then 11 else 10, s)
  | 10, s => (8, s)
  | 11, s => (12, s.flip b size)
  | 12, s => (13, { s with digit := s.digit + 1 })
  | 13, s => (if s.digit = 16 then 14 else 15, s)
  | 14, s => (15, { s with digit := 0 })
  | _, s => (4, s)

/-- The first place is left for good. -/
theorem next_place (b : Blueprint) (size : DisplaySize) (k : Nat) (s : State) :
    0 < (next b size k s).1 ∧ (next b size k s).1 < 16 := by
  unfold next
  split
  case h_10 | h_14 => split_ifs <;> simp
  all_goals simp

theorem look_setReg (m : Machine FrameBuffer) (x : Nibble) (v : UInt8) :
    look (m.setReg x v) =
      { look m with
        digit := if x = 0 then v else m.reg 0
        column := if x = 1 then v else m.reg 1
        row := if x = 2 then v else m.reg 2
        left := if x = 3 then v else m.reg 3 } := by
  have hreg (y : Nibble) : (m.setReg x v).reg y = if x = y then v else m.reg y := by
    split_ifs with h
    · rw [h, Machine.reg_setReg_self]
    · exact m.reg_setReg_of_ne h v
  ext1
  case digit | column | row | left => exact hreg _
  all_goals rfl

theorem look_hold (m : Machine FrameBuffer) (key : Option UInt8) :
    look { m with display := Attended.hold key m.display } = look m := by
  ext1
  case lit =>
    funext row col
    show (Attended.hold key m.display).lit row col = m.display.lit row col
    rw [FrameBuffer.lit_eq, FrameBuffer.lit_eq]
    cases key <;> rfl
  all_goals rfl

namespace Loaded

variable {b : Blueprint} {m : Machine FrameBuffer} {k : Nat}

theorem advance (h : Loaded b m) : Loaded b m.advance :=
  { h with fills := { h.fills with } }

theorem sprite_eq (h : Loaded b m) : m.sprite 1 2 5 = (look m).sprite b := by
  unfold Machine.sprite State.sprite
  rw [h.memory_eq]
  rfl

theorem look_draw (h : Loaded b m) :
    (m.execute (.draw 1 2 5)).1 = .ok () ∧
      look (m.execute (.draw 1 2 5)).2 = (look m).flip b m.size := by
  obtain ⟨hok, -, hlit⟩ := h.fills.execute_draw 1 2 5
  refine ⟨hok, ?_⟩
  rw [h.sprite_eq, h.compat_eq] at hlit
  ext1
  case digit | column | row | left => exact m.reg_execute_of_not_mayWrite rfl
  case delay => exact congrArg Timers.delay (m.timers_execute _)
  case index => exact m.index_execute _
  case lit => exact funext fun row => funext fun col => hlit row col

theorem look_clear (h : Loaded b m) :
    (m.execute .clear).1 = .ok () ∧
      look (m.execute .clear).2 = { look m with lit := fun _ _ => false } := by
  obtain ⟨hok, -, hlit⟩ := h.fills.execute_clear
  refine ⟨hok, ?_⟩
  ext1
  case digit | column | row | left => exact m.reg_execute_of_not_mayWrite rfl
  case delay => exact congrArg Timers.delay (m.timers_execute _)
  case index => exact m.index_execute _
  case lit => exact funext fun row => funext fun col => hlit row col

/-- A step of the machine is a step of the program. -/
theorem step_next (h : Loaded b m) (hk : k < 16) (hpc : m.pc = place k) :
    m.step.1 = .ok () ∧ m.step.2.pc = place (next b m.size k (look m)).1 ∧
      look m.step.2 = (next b m.size k (look m)).2 := by
  have hnext (hk' : k < 15) : m.advance.pc = place (k + 1) := by
    rw [← address_place_add_two k hk', ← hpc]
    rfl
  match k with
  | 0 =>
      rw [h.step_eq rfl hpc]
      exact ⟨h.advance.look_clear.1, (m.advance.pc_execute _).trans (hnext (by decide)),
        h.advance.look_clear.2⟩
  | 5 | 11 =>
      rw [h.step_eq rfl hpc]
      exact ⟨h.advance.look_draw.1, (m.advance.pc_execute _).trans (hnext (by decide)),
        h.advance.look_draw.2⟩
  | 1 | 2 | 3 | 6 | 8 | 12 | 14 =>
      rw [h.step_eq rfl hpc]
      exact ⟨rfl, hnext (by decide), look_setReg m.advance _ _⟩
  | 4 | 7 =>
      rw [h.step_eq rfl hpc]
      exact ⟨rfl, hnext (by decide), rfl⟩
  | 10 | 15 =>
      rw [h.step_eq rfl hpc]
      exact ⟨rfl, rfl, rfl⟩
  | 9 =>
      have hskip : address (m.advance.pc + 2) = place 11 := by
        rw [hnext (by decide)]
        rfl
      rw [h.step_eq rfl hpc, Machine.execute, Machine.skipIf_eq]
      refine ⟨rfl, ?_, rfl⟩
      show (if m.reg 3 == 0 then address (m.advance.pc + 2) else m.advance.pc) =
        place (if m.reg 3 = 0 then 11 else 10)
      rw [hskip, hnext (by decide)]
      by_cases hzero : m.reg 3 = 0
      · rw [if_pos (beq_iff_eq.2 hzero), if_pos hzero]
      · rw [if_neg (fun he => hzero (beq_iff_eq.1 he)), if_neg hzero]
  | 13 =>
      have hskip : address (m.advance.pc + 2) = place 15 := by
        rw [hnext (by decide)]
        rfl
      rw [h.step_eq rfl hpc, Machine.execute, Machine.skipIf_eq]
      refine ⟨rfl, ?_, rfl⟩
      show (if m.reg 0 != 16 then address (m.advance.pc + 2) else m.advance.pc) =
        place (if m.reg 0 = 16 then 14 else 15)
      rw [hskip, hnext (by decide)]
      by_cases hlast : m.reg 0 = 16
      · rw [if_neg (by rw [hlast]; decide), if_pos hlast]
      · rw [if_pos (bne_iff_ne.2 hlast), if_neg hlast]
  | k + 16 => exact absurd hk (by omega)

end Loaded

end Chip8.Demo
