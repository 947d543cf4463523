import Chip8.Proofs.Instruction.Patterns
import Chip8.Proofs.Machine.Contract

/-!
When a step fails, and what a failed step leaves behind. Around a framebuffer only the program can
be at fault: it returns from nowhere, it calls once too often, or it runs into a word that is no
instruction. Each of the three can be told beforehand from the word at the program counter and the
call stack. Afterwards the machine stands behind the word, with nothing else changed, so a driver
that steps on passes over it as over a routine call.
-/

namespace Chip8.Machine

open Instruction (Fits patterns)

variable {D : Type} {m : Machine D} {e : Error}

/-- What a program can do wrong, on a machine that allows for so many open calls. -/
inductive Fault (stackSize : Nat) (m : Machine D) : Error → Prop
  | underflow (word : m.fetch = 0x00EE) (empty : m.stack.toList = []) :
      Fault stackSize m .stackUnderflow
  | overflow (word : Fits "2NNN" m.fetch) (full : m.stack.toList.length = stackSize) :
      Fault stackSize m (.stackOverflow stackSize)
  | unknown (word : ∀ pattern ∈ patterns, ¬ Fits pattern m.fetch) :
      Fault stackSize m (.unknownOpcode m.fetch m.pc)

theorem toNat_fetch (m : Machine D) :
    m.fetch.toNat =
      256 * (m.memory.read m.pc).toNat + (m.memory.read (address (m.pc + 1))).toNat := by
  rw [Memory.read_address]
  exact Memory.toNat_readWord m.memory m.pc

theorem instruction?_eq_none_iff :
    m.instruction? = none ↔ ∀ pattern ∈ patterns, ¬ Fits pattern m.fetch := by
  rw [← Option.not_isSome_iff_eq_none, instruction?, Instruction.isSome_decode?_iff]
  simp

/-- The call stack is full if it holds as many addresses as it may. -/
theorem Sound.length_eq_iff (h : m.Sound) :
    m.stack.toList.length = m.stack.capacity ↔ ¬ m.stack.size < m.stack.capacity := by
  have hle := h.depth_le
  have hlength : m.stack.toList.length = m.stack.size := Array.length_toList
  omega

theorem back?_eq_none_iff : m.stack.entries.back? = none ↔ m.stack.toList = [] := by
  rw [Array.back?_eq_none_iff, CallStack.toList, Array.toList_eq_nil_iff]

/-! ### One step -/

section Step

variable [Display D]

/-- A fault is reported, and the step has done nothing but move on. -/
theorem Sound.step_of_fault (h : m.Sound) (hfault : Fault m.stack.capacity m e) :
    m.step = m.advance.fail e := by
  cases hfault with
  | underflow word empty =>
      have hback : m.advance.stack.entries.back? = none := back?_eq_none_iff.2 empty
      have hret : m.instruction? = some .ret := Instruction.decode?_eq_ret_iff.2 word
      rw [step_of_some hret]
      show m.advance.ret = _
      rw [ret_eq, hback]
  | overflow word full =>
      have hroom : ¬ m.advance.stack.size < m.advance.stack.capacity := h.length_eq_iff.1 full
      obtain ⟨nnn, hcall⟩ := Instruction.exists_decode?_eq_call_iff.2 word
      have hsize : m.advance.stack.size = m.stack.capacity := full
      rw [step_of_some (i := .call nnn) hcall]
      show m.advance.call nnn = _
      rw [call_eq, if_neg hroom, hsize]
  | unknown word => exact step_of_none (instruction?_eq_none_iff.2 word)

/-- A step that fails through no fault of its display meets one of the faults. -/
theorem Sound.fault_of_ownError (h : m.Sound) (hown : OwnError m e) (he : m.step.1 = .error e) :
    Fault m.stack.capacity m e := by
  cases hown with
  | underflow hret =>
      refine .underflow (Instruction.decode?_eq_ret_iff.1 hret) (back?_eq_none_iff.1 ?_)
      rw [step_of_some hret, execute_fst] at he
      have he : (if m.stack.entries.back?.isSome then Except.ok ()
        else .error .stackUnderflow) = Except.error Error.stackUnderflow := he
      split_ifs at he with hback
      exact Option.not_isSome_iff_eq_none.1 hback
  | overflow hcall =>
      rw [step_of_some hcall, execute_fst] at he
      have he : (if m.stack.size < m.stack.capacity then Except.ok ()
        else .error (Error.stackOverflow m.stack.size)) = Except.error _ := he
      split_ifs at he with hroom
      have hfull := h.length_eq_iff.2 hroom
      have hsize : m.stack.size = m.stack.capacity := hfull
      rw [hsize]
      exact .overflow (Instruction.exists_decode?_eq_call_iff.1 ⟨_, hcall⟩) hfull
  | unknown hnone => exact .unknown (instruction?_eq_none_iff.1 hnone)

end Step

/-! ### Every step of every run -/

/-- How a step fails, and how it does not, on a machine with room for so many open calls. -/
structure Failures (stackSize : Nat) (m : Machine FrameBuffer) (outcome : Outcome FrameBuffer) :
    Prop where
  word : m.fetch.toNat =
    256 * (m.memory.read m.pc).toNat + (m.memory.read (address (m.pc + 1))).toNat
  error_iff (e : Error) : outcome.1 = .error e ↔ Fault stackSize m e
  ok_iff : outcome.1 = .ok () ↔ ∀ e, ¬ Fault stackSize m e
  only_moves (e : Error) (h : Fault stackSize m e) :
    outcome.2 = { m with pc := address (m.pc + 2) }
  /-- What comes after a failure is what would come after a routine call. -/
  goes_on (e : Error) (h : Fault stackSize m e) (nnn : UInt16) (acts : List Act) :
    (m.advance.execute (.sys nnn)).1 = .ok () ∧
      outcome.2.play acts = (m.advance.execute (.sys nnn)).2.play acts

theorem Sound.failures {m : Machine FrameBuffer} (h : m.Sound) (hsize : m.display.size = m.size) :
    Failures m.stack.capacity m m.step := by
  have hiff (e : Error) : m.step.1 = .error e ↔ Fault m.stack.capacity m e := by
    constructor
    · intro he
      exact h.fault_of_ownError ((step_frameBuffer h hsize).2 e he) he
    · intro hfault
      rw [h.step_of_fault hfault]
      rfl
  have hafter (e : Error) (hfault : Fault m.stack.capacity m e) : m.step.2 = m.advance := by
    rw [h.step_of_fault hfault]
    rfl
  refine ⟨toNat_fetch m, hiff, ?_, hafter, fun e hfault nnn acts => ⟨rfl, ?_⟩⟩
  · simp only [← hiff]
    cases m.step.1 with
    | ok u => simp
    | error e => simp
  · rw [hafter e hfault]
    rfl

/-- Whatever was done to the machine before, and however it ended. -/
theorem failures_stepAt {b : Blueprint} {around : Blueprint.Surroundings} {fb : FrameBuffer}
    {m : Machine FrameBuffer} (ungated : b.gated = false) (h : b.build around fb = .ok m)
    (acts : List Act) (now : Nat) :
    Failures b.stackSize (m.play acts) ((m.play acts).stepAt now) := by
  obtain ⟨hfits, rfl⟩ := Blueprint.build_eq_ok_iff.1 h
  have hbuilt := sound_machine ungated hfits around fb
  have hsound := hbuilt.play acts
  have hfailures := hsound.failures (size_play_frameBuffer hbuilt rfl acts)
  rw [capacity_play] at hfailures
  rw [stepAt_of_ungated hsound.ungated]
  exact hfailures

/-- Two calls, with room for one, and a return. -/
def callsTwice : Blueprint :=
  { program := [0x22, 0x02, 0x22, 0x00, 0x00, 0xEE], stackSize := 1, gated := false }

/-- The second call is refused. The machine is past it, and returns from the first. -/
theorem failures_stepAt_callsTwice :
    let frame := FrameBuffer.new ⟨8, 4⟩
    let m := (callsTwice.machine {} frame ⟨8, 4⟩).play [.step 0]
    callsTwice.gated = false ∧
      callsTwice.build {} frame = .ok (callsTwice.machine {} frame ⟨8, 4⟩) ∧
      Fault 1 m (.stackOverflow 1) ∧ (m.stepAt 1).1 = .error (.stackOverflow 1) ∧
      Failures 1 m (m.stepAt 1) ∧ (m.play [.step 1, .step 2]).pc = 0x202 := by
  intro frame m
  have hbuild : callsTwice.build {} frame = .ok (callsTwice.machine {} frame ⟨8, 4⟩) := rfl
  have hfailures : Failures 1 m (m.stepAt 1) := failures_stepAt rfl hbuild [.step 0] 1
  have hrun : (m.stepAt 1).1 = .error (.stackOverflow 1) ∧
      (m.play [.step 1, .step 2]).pc = 0x202 := by
    decide +kernel
  exact ⟨rfl, hbuild, (hfailures.error_iff _).1 hrun.1, hrun.1, hfailures, hrun.2⟩

end Chip8.Machine
