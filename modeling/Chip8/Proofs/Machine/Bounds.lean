import Chip8.Proofs.Instruction.Decoding
import Chip8.Proofs.Machine.Footprint
import Chip8.Proofs.Machine.Run

/-!
The bounds that hold at every moment of every run. Addresses have twelve bits: the program
counter, I, and what is on the call stack. That is an invariant only as a whole, since each of the
three is loaded from another, and an instruction that forgot to cut an address to twelve bits would
be noticed much later, in the sum of some other instruction.
-/

namespace Chip8.Machine

variable {D : Type}

/-- The invariant of a machine whose timers are left to the driver. -/
structure Sound (m : Machine D) : Prop where
  pc_lt : m.pc.toNat < 4096
  index_lt : m.index.toNat < 4096
  entries_lt : ∀ addr ∈ m.stack.entries, addr.toNat < 4096
  depth_le : m.stack.size ≤ m.stack.capacity
  width_pos : 0 < m.size.width
  height_pos : 0 < m.size.height
  ungated : m.gate = none

theorem sound_machine {b : Blueprint} {size : DisplaySize} (ungated : b.gated = false)
    (h : b.Fits size) (around : Blueprint.Surroundings) (display : D) :
    (b.machine around display size).Sound where
  pc_lt := show programAddr.toNat < 4096 by decide
  index_lt := show (0 : UInt16).toNat < 4096 by decide
  entries_lt := by simp [Blueprint.machine]
  depth_le := Nat.zero_le _
  width_pos := h.width_pos
  height_pos := h.height_pos
  ungated := by simp [Blueprint.machine, ungated]

/-! ### The address of a glyph -/

theorem toNat_glyphOffset (digit : UInt8) :
    (5 * (digit.toUInt16 &&& 0xF)).toNat = 5 * (digit.toNat % 16) := by
  have hdigit : (digit.toUInt16 &&& 0xF).toNat = digit.toNat % 16 := by
    rw [UInt16.toNat_and]
    exact Nat.and_two_pow_sub_one_eq_mod digit.toNat 4
  have hlt := Nat.mod_lt digit.toNat (show 0 < 16 by decide)
  rw [UInt16.toNat_mul, hdigit]
  exact Nat.mod_eq_of_lt (show 5 * (digit.toNat % 16) < 65536 by omega)

/-- The glyphs are five bytes long, and there are sixteen of them. -/
theorem toNat_glyphAddr (digit : UInt8) :
    (fontAddr + 5 * (digit.toUInt16 &&& 0xF)).toNat = 80 + 5 * (digit.toNat % 16) := by
  have hlt := Nat.mod_lt digit.toNat (show 0 < 16 by decide)
  rw [UInt16.toNat_add, toNat_glyphOffset]
  exact Nat.mod_eq_of_lt (show 80 + 5 * (digit.toNat % 16) < 65536 by omega)

namespace Sound

variable {m : Machine D}

theorem advance (h : m.Sound) : m.advance.Sound :=
  { h with pc_lt := address_lt _ }

theorem tick (h : m.Sound) : m.tick.Sound :=
  { h with }

theorem withDisplay (h : m.Sound) (display : D) : Sound { m with display } :=
  { h with }

/-! ### One instruction

The new value of each address is a twelve-bit operand, a sum that is cut to twelve bits, or one of
the addresses there were before. -/

theorem indexAfter_lt (h : m.Sound) {i : Instruction} (hi : i.WellFormed) :
    (m.indexAfter i).toNat < 4096 := by
  cases i with
  | loadIndex nnn => exact hi
  | addIndex x => exact address_lt _
  | loadGlyph x =>
      have hlt := Nat.mod_lt (m.reg x).toNat (show 0 < 16 by decide)
      simp only [indexAfter, toNat_glyphAddr]
      omega
  | _ => exact h.index_lt

theorem stackAfter_entries_lt (h : m.Sound) (i : Instruction) :
    ∀ addr ∈ (m.stackAfter i).entries, addr.toNat < 4096 := by
  cases i with
  | call nnn =>
      unfold stackAfter
      split_ifs
      · intro addr haddr
        rcases Array.mem_push.1 haddr with hold | rfl
        · exact h.entries_lt addr hold
        · exact h.pc_lt
      · exact h.entries_lt
  | ret =>
      -- What a return leaves on the stack was there before.
      intro addr haddr
      have hmem : addr ∈ m.stack.entries.pop.toList := Array.mem_toList_iff.2 haddr
      rw [Array.toList_pop] at hmem
      exact h.entries_lt addr (Array.mem_toList_iff.1 (List.dropLast_subset _ hmem))
  | _ => exact h.entries_lt

theorem stackAfter_size_le (h : m.Sound) (i : Instruction) :
    (m.stackAfter i).size ≤ (m.stackAfter i).capacity := by
  cases i with
  | call nnn =>
      unfold stackAfter
      split_ifs with hlt
      · simpa [CallStack.size, Nat.succ_le_iff] using hlt
      · exact h.depth_le
  | ret =>
      have hpop : m.stack.entries.pop.size ≤ m.stack.entries.size := by
        rw [Array.size_pop]
        omega
      exact Nat.le_trans hpop h.depth_le
  | _ => exact h.depth_le

variable [Display D]

theorem pcAfter_lt (h : m.Sound) {i : Instruction} (hi : i.WellFormed) :
    (m.pcAfter i).toNat < 4096 := by
  cases i with
  | jump nnn => exact hi
  | call nnn =>
      unfold pcAfter
      split_ifs
      · exact hi
      · exact h.pc_lt
  | ret =>
      unfold pcAfter
      cases hback : m.stack.entries.back? with
      | none => exact h.pc_lt
      | some addr => exact h.entries_lt addr (Array.mem_of_back? hback)
  | jumpOffset nnn =>
      show (m.offsetTarget nnn).toNat < 4096
      unfold offsetTarget
      split <;> exact address_lt _
  | _ =>
      rw [pcAfter_of_not_jumps m rfl]
      split_ifs
      · exact address_lt _
      · exact address_lt _
      · exact h.pc_lt

theorem execute (h : m.Sound) {i : Instruction} (hi : i.WellFormed) :
    (m.execute i).2.Sound where
  pc_lt := by rw [pc_execute]; exact h.pcAfter_lt hi
  index_lt := by rw [index_execute]; exact h.indexAfter_lt hi
  entries_lt := by rw [stack_execute]; exact h.stackAfter_entries_lt i
  depth_le := by rw [stack_execute]; exact h.stackAfter_size_le i
  width_pos := by rw [size_execute]; exact h.width_pos
  height_pos := by rw [size_execute]; exact h.height_pos
  ungated := by rw [gate_execute]; exact h.ungated

theorem step (h : m.Sound) : m.step.2.Sound := by
  cases hi : m.instruction? with
  | none => rw [step_of_none hi]; exact h.advance
  | some i =>
      rw [step_of_some hi]
      exact h.advance.execute (Instruction.wellFormed_of_decode? hi)

end Sound

/-! ### Every run -/

/-- How many calls may be open is chosen when the machine is built. -/
theorem capacity_stackAfter (m : Machine D) (i : Instruction) :
    (m.stackAfter i).capacity = m.stack.capacity := by
  cases i with
  | call nnn => unfold stackAfter; split_ifs <;> rfl
  | _ => rfl

theorem capacity_step [Display D] (m : Machine D) : m.step.2.stack.capacity = m.stack.capacity := by
  cases hi : m.instruction? with
  | none => rw [step_of_none hi]; rfl
  | some i => rw [step_of_some hi, stack_execute, capacity_stackAfter]; rfl

theorem size_step [Display D] (m : Machine D) : m.step.2.size = m.size := by
  cases hi : m.instruction? with
  | none => rw [step_of_none hi]; rfl
  | some i => rw [step_of_some hi, size_execute]; rfl

variable [Attended D] {m : Machine D}

/-- What was chosen when the machine was built stays: steps keep it, and the gate, the timers and
the display have nothing to do with it. -/
theorem view_play {α : Type} (view : Machine D → α)
    (hstep : ∀ m : Machine D, view m.step.2 = view m)
    (hrest : ∀ (m : Machine D) gate timers display,
      view { m with gate, timers, display } = view m)
    (m : Machine D) (acts : List Act) : view (m.play acts) = view m := by
  refine play_induction (P := fun m' => view m' = view m) (fun m' a ih => ?_) rfl acts
  rw [← ih]
  cases a with
  | step now =>
      obtain ⟨gate, timers, hgate⟩ := m'.stepAt_eq now
      show view (m'.stepAt now).2 = view m'
      rw [hgate, hstep]
      exact hrest m' gate timers m'.display
  | tick => exact hrest m' m'.gate _ m'.display
  | hold key => exact hrest m' m'.gate m'.timers _

theorem capacity_play (m : Machine D) (acts : List Act) :
    (m.play acts).stack.capacity = m.stack.capacity :=
  view_play (fun m => m.stack.capacity) capacity_step (fun _ _ _ _ => rfl) m acts

theorem size_play (m : Machine D) (acts : List Act) : (m.play acts).size = m.size :=
  view_play Machine.size size_step (fun _ _ _ _ => rfl) m acts

theorem Sound.act (h : m.Sound) (a : Act) : (m.act a).Sound := by
  cases a with
  | step now =>
      show (m.stepAt now).2.Sound
      rw [stepAt_of_ungated h.ungated]
      exact h.step
  | tick => exact h.tick
  | hold key => exact h.withDisplay _

theorem Sound.play (h : m.Sound) (acts : List Act) : (m.play acts).Sound :=
  play_induction (fun _ a ih => ih.act a) h acts

theorem Reachable.sound (h : m.Reachable) : m.Sound := by
  induction h with
  | built ungated h =>
      obtain ⟨hfits, rfl⟩ := Blueprint.build_eq_ok_iff.1 h
      exact sound_machine ungated hfits _ _
  | act h a ih => exact ih.act a

end Chip8.Machine
