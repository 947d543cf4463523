import Chip8.Proofs.Machine.Bounds
import Chip8.Proofs.Machine.Subroutine

/-!
The frame of a step: what it leaves alone. A field changes only under the instructions that are
there to change it, and by no more than they say, however the step ends. A word that is no
instruction changes nothing; the machine only moves on.
-/

namespace Chip8.Machine

variable {D : Type}

/-- Whether the next step executes an instruction with property `p`. -/
def comes (m : Machine D) (p : Instruction → Bool) : Bool :=
  m.instruction?.any p

theorem comes_of_none {m : Machine D} (h : m.instruction? = none) (p : Instruction → Bool) :
    m.comes p = false := by
  rw [comes, h, Option.any_none]

theorem comes_of_some {m : Machine D} {i : Instruction} (h : m.instruction? = some i)
    (p : Instruction → Bool) : m.comes p = p i := by
  rw [comes, h, Option.any_some]

section AtSteps

variable [Attended D] {m : Machine D} {P : Machine D → Prop} {acts : List Act}

/-- Each step of the run is taken by a machine with property `P`. -/
def AtSteps (P : Machine D → Prop) (m : Machine D) (acts : List Act) : Prop :=
  ∀ pre now, pre ++ [.step now] <+: acts → P (m.play pre)

theorem atSteps_nil (P : Machine D → Prop) (m : Machine D) : AtSteps P m [] := by
  intro pre now hpre
  simp at hpre

theorem atSteps_cons {a : Act} :
    AtSteps P m (a :: acts) ↔ (∀ now, a = .step now → P m) ∧ AtSteps P (m.act a) acts := by
  constructor
  · intro h
    refine ⟨?_, fun pre now hpre => h (a :: pre) now (List.cons_prefix_cons.2 ⟨rfl, hpre⟩)⟩
    rintro now rfl
    exact h [] now (List.cons_prefix_cons.2 ⟨rfl, List.nil_prefix⟩)
  · rintro ⟨hfirst, hrest⟩ pre now hpre
    cases pre with
    | nil =>
        obtain ⟨rfl, -⟩ := List.cons_prefix_cons.1 hpre
        exact hfirst now rfl
    | cons b pre =>
        obtain ⟨rfl, htail⟩ := List.cons_prefix_cons.1 hpre
        exact hrest pre now htail

theorem atSteps_step {now : Nat} :
    AtSteps P m (.step now :: acts) ↔ P m ∧ AtSteps P (m.act (.step now)) acts := by
  simp [atSteps_cons]

theorem atSteps_tick : AtSteps P m (.tick :: acts) ↔ AtSteps P m.tick acts := by
  rw [atSteps_cons]
  exact and_iff_right nofun

theorem atSteps_hold {key : Option UInt8} :
    AtSteps P m (.hold key :: acts) ↔ AtSteps P (m.act (.hold key)) acts := by
  rw [atSteps_cons]
  exact and_iff_right nofun

end AtSteps

section Avoids

variable [Attended D] {m : Machine D} {p : Instruction → Bool} {acts : List Act}

/-- No step of the run executes an instruction with property `p`. -/
def Avoids (p : Instruction → Bool) (m : Machine D) (acts : List Act) : Prop :=
  ∀ pre now, pre ++ [.step now] <+: acts → ¬ (m.play pre).comes p

theorem avoids_nil (p : Instruction → Bool) (m : Machine D) : Avoids p m [] :=
  atSteps_nil (fun m => ¬ m.comes p) m

theorem avoids_step {now : Nat} :
    Avoids p m (.step now :: acts) ↔ ¬ m.comes p ∧ Avoids p (m.act (.step now)) acts :=
  atSteps_step (P := fun m => ¬ m.comes p)

theorem avoids_tick : Avoids p m (.tick :: acts) ↔ Avoids p m.tick acts :=
  atSteps_tick (P := fun m => ¬ m.comes p)

theorem avoids_hold {key : Option UInt8} :
    Avoids p m (.hold key :: acts) ↔ Avoids p (m.act (.hold key)) acts :=
  atSteps_hold (P := fun m => ¬ m.comes p)

end Avoids

/-- What a step may change, and what that tells about the instruction. -/
structure Frame [Display D] (m : Machine D) (outcome : Outcome D) : Prop where
  regs (k : Nibble) (h : outcome.2.reg k ≠ m.reg k) : m.comes (Instruction.mayWrite k)
  index (h : outcome.2.index ≠ m.index) : m.comes Instruction.movesIndex
  memory (a : UInt16) (h : outcome.2.memory.read a ≠ m.memory.read a) :
    ∃ k, m.comes (k < ·.storeCount) ∧ slot a = slot (m.index + UInt16.ofNat k)
  stack : StackMove m outcome
  delay (h : outcome.2.timers.delay ≠ m.timers.delay) : m.comes Instruction.setsDelay
  sound (h : outcome.2.timers.sound ≠ m.timers.sound) : m.comes Instruction.setsSound
  random : outcome.2.random =
    if m.comes Instruction.rolls then m.random.advance else m.random
  /-- Unless it draws, a step asks the display for the held key at most. -/
  display (h : ¬ m.comes Instruction.draws) : outcome.2.display =
    if m.comes Instruction.polls then (Display.pollKey m.display).2 else m.display
  pc (h : ¬ m.comes Instruction.jumps) : outcome.2.pc =
    if m.comes m.skips then address (m.pc + 4)
    else if m.comes m.waits then m.pc
    else address (m.pc + 2)
  size : outcome.2.size = m.size
  compat : outcome.2.compat = m.compat

/-- A field that the instruction changed is one that it may change. -/
theorem comes_of_ne {m : Machine D} {i : Instruction} (hi : m.instruction? = some i) {α : Sort*}
    {old new : α} {p : Instruction → Bool} (hne : new ≠ old) (h : p i = false → new = old) :
    m.comes p := by
  rw [comes_of_some hi]
  by_contra hp
  exact hne (h (Bool.not_eq_true _ ▸ hp))

/-- The byte that was changed lies in the row that the instruction stores. -/
theorem exists_of_memory_ne {m : Machine D} {i : Instruction} {a : UInt16}
    (h : (m.memoryAfter i).read a ≠ m.memory.read a) :
    ∃ k < i.storeCount, slot a = slot (m.index + UInt16.ofNat k) := by
  by_contra hnone
  refine h (read_memoryAfter_of_ne m fun k hk heq => ?_)
  exact hnone ⟨k, hk, heq.symm⟩

section Step

variable [Display D] {m : Machine D}

/-! ### One step -/

theorem frame_of_none (h : m.instruction? = none) : Frame m m.step := by
  have hcomes := comes_of_none h
  rw [step_of_none h]
  exact
    { regs := fun k hk => absurd rfl hk
      index := absurd rfl
      memory := fun a ha => absurd rfl ha
      stack := .stays rfl
      delay := absurd rfl
      sound := absurd rfl
      random := by rw [hcomes]; rfl
      display := fun _ => by rw [hcomes]; rfl
      pc := fun _ => by rw [hcomes, hcomes]; rfl
      size := rfl
      compat := rfl }

omit [Display D] in
/-- Two words on, and the word between left out. -/
theorem address_skip (m : Machine D) : address (m.advance.pc + 2) = address (m.pc + 4) := by
  apply UInt16.toNat_inj.1
  simp only [advance, toNat_address_add, UInt16.reduceToNat]
  omega

omit [Display D] in
/-- One word on and back again, also around the end of memory. -/
theorem address_rewind (hpc : m.pc.toNat < 4096) : address (m.advance.pc - 2) = m.pc := by
  apply UInt16.toNat_inj.1
  simp only [advance, toNat_address, UInt16.toNat_add, UInt16.toNat_sub, UInt16.reduceToNat]
  omega

/-- The instruction is executed with the program counter behind it, which is where it goes on
unless it says otherwise. -/
theorem pc_of_not_jumps (hpc : m.pc.toNat < 4096) {i : Instruction} (h : i.jumps = false) :
    (m.advance.execute i).2.pc =
      if m.skips i then address (m.pc + 4) else if m.waits i then m.pc
      else address (m.pc + 2) := by
  rw [pc_execute, pcAfter_of_not_jumps _ h, address_skip, address_rewind hpc]
  rfl

theorem frame_of_some (hpc : m.pc.toNat < 4096) {i : Instruction}
    (h : m.instruction? = some i) : Frame m m.step := by
  have hstack := stack_step m
  have hcomes := comes_of_some h
  rw [step_of_some h] at hstack ⊢
  -- Each field of the frame has its footprint; `m.advance` differs from `m` in the counter only.
  constructor
  case regs =>
    intro k hne
    exact comes_of_ne h hne fun hk => reg_execute_of_not_mayWrite m.advance hk
  case index =>
    intro hne
    rw [index_execute] at hne
    exact comes_of_ne h hne (indexAfter_of_stays m.advance)
  case memory =>
    intro a hne
    rw [memory_execute] at hne
    obtain ⟨k, hk, ha⟩ := exists_of_memory_ne hne
    exact ⟨k, by rw [hcomes]; exact decide_eq_true hk, ha⟩
  case stack => exact hstack
  case delay =>
    intro hne
    rw [timers_execute] at hne
    exact comes_of_ne h hne (delay_timersAfter m.advance)
  case sound =>
    intro hne
    rw [timers_execute] at hne
    exact comes_of_ne h hne (sound_timersAfter m.advance)
  case random =>
    rw [hcomes, random_execute, randomAfter_eq]
    rfl
  case display =>
    intro hdraws
    rw [hcomes] at hdraws ⊢
    rw [display_execute, displayAfter_of_not_draws _ (Bool.not_eq_true _ ▸ hdraws)]
    rfl
  case pc =>
    intro hjumps
    rw [hcomes] at hjumps
    rw [hcomes, hcomes]
    exact pc_of_not_jumps hpc (Bool.not_eq_true _ ▸ hjumps)
  case size => exact m.advance.size_execute i
  case compat => exact m.advance.compat_execute i

theorem Sound.frame (h : m.Sound) : Frame m m.step := by
  cases hi : m.instruction? with
  | none => exact frame_of_none hi
  | some i => exact frame_of_some h.pc_lt hi

end Step

/-! ### Every step of every run -/

theorem frame_stepAt [Attended D] {m : Machine D} (h : m.Reachable) (now : Nat) :
    Frame m (m.stepAt now) := by
  rw [stepAt_of_ungated h.sound.ungated]
  exact h.sound.frame

/-- Stores three registers across the end of memory. -/
def storesAcross : Blueprint :=
  { program := [0xAF, 0xFE, 0xF2, 0x55], gated := false }

/-- The third byte is the first of memory. -/
theorem frame_stepAt_storesAcross :
    let frame := FrameBuffer.new ⟨8, 4⟩
    let m := (storesAcross.machine {} frame ⟨8, 4⟩).act (.step 0)
    m.Reachable ∧ m.instruction? = some (.storeRegs 2) ∧ slot (m.index + 2) = slot 0 ∧
      Frame m (m.stepAt 1) := by
  intro frame m
  have hbuild : storesAcross.build {} frame = .ok (storesAcross.machine {} frame ⟨8, 4⟩) := rfl
  have hreachable : m.Reachable := .act (.built rfl hbuild) (.step 0)
  exact ⟨hreachable, by decide +kernel, by decide +kernel, frame_stepAt hreachable 1⟩

/-- To be asked for its key is nothing to a framebuffer: unless the step draws, it stays as it
is. -/
theorem Frame.display_frameBuffer {m : Machine FrameBuffer} {outcome : Outcome FrameBuffer}
    (h : Frame m outcome) (hdraws : ¬ m.comes Instruction.draws) :
    outcome.2.display = m.display := by
  rw [h.display hdraws]
  exact ite_self m.display

end Chip8.Machine
