import Chip8.Proofs.Display.Recorder
import Chip8.Proofs.Display.Storage
import Chip8.Proofs.Machine.Frame
import Chip8.Proofs.Machine.Sprite
import Chip8.Proofs.Machine.Transport

/-!
What a machine asks of its display, and what it makes of the answers. It asks for pixels of the
grid only, and for a refresh only after it has drawn; and if a step fails through no fault of its
program, the display refused a call that it should have answered.
-/

namespace Chip8.Machine

variable {D : Type}

/-! ### Drawing is work on the grid -/

theorem contains_of_mem_spriteDots {m : Machine D} (hwidth : 0 < m.size.width)
    (hheight : 0 < m.size.height) {x y n : Nibble} {dot : Dot}
    (hdot : dot ∈ m.spriteDots x y n) : m.size.Contains dot.row dot.col := by
  rw [spriteDots_eq_dots] at hdot
  exact Sprite.contains_of_mem_dots hwidth hheight hdot

/-- The errors that a program brings upon itself, whatever it is shown on. -/
inductive OwnError (m : Machine D) : Error → Prop
  | underflow (h : m.instruction? = some .ret) : OwnError m .stackUnderflow
  | overflow {nnn : UInt16} (h : m.instruction? = some (.call nnn)) :
      OwnError m (.stackOverflow m.stack.size)
  | unknown (h : m.instruction? = none) : OwnError m (.unknownOpcode m.fetch m.pc)

/-- A step either draws, and then it fails exactly if the display does, or it fails by itself. -/
inductive DisplayUse [Display D] (m : Machine D) (outcome : Outcome D) : Prop
  | works (answer : Except DisplayError Unit) (draws : m.comes Instruction.draws)
      (work : Works m.size m.display answer outcome.2.display)
      (result : outcome.1 = answer.mapError DisplayError.toError)
  | idle (draws : ¬ m.comes Instruction.draws) (own : ∀ e, outcome.1 = .error e → OwnError m e)

section Step

variable [Display D] {m : Machine D}

theorem works_execute (hwidth : 0 < m.size.width) (hheight : 0 < m.size.height)
    {i : Instruction} (hi : i.draws) :
    ∃ answer, Works m.size m.display answer (m.execute i).2.display ∧
      (m.execute i).1 = answer.mapError DisplayError.toError := by
  rw [display_execute, execute_fst]
  cases i with
  | clear => exact ⟨_, works_wipeAndRefresh _ fun p => DisplaySize.contains_of_mem_positions, rfl⟩
  | draw x y n =>
      exact ⟨_, works_plotAndRefresh _ fun dot => contains_of_mem_spriteDots hwidth hheight, rfl⟩
  | _ => cases hi

theorem ownError_of_execute {i : Instruction} (h : m.instruction? = some i) (hi : ¬ i.draws)
    {e : Error} (he : (m.advance.execute i).1 = .error e) : OwnError m e := by
  rw [execute_fst] at he
  cases i with
  | clear | draw => exact absurd rfl hi
  | call nnn =>
      have he : (if m.stack.size < m.stack.capacity then Except.ok ()
        else .error (.stackOverflow m.stack.size)) = Except.error e := he
      split_ifs at he
      cases he
      exact .overflow h
  | ret =>
      have he : (if m.stack.entries.back?.isSome then Except.ok ()
        else .error .stackUnderflow) = Except.error e := he
      split_ifs at he
      cases he
      exact .underflow h
  | _ => cases he

theorem Sound.displayUse (h : m.Sound) : DisplayUse m m.step := by
  cases hi : m.instruction? with
  | none =>
      refine .idle (by simp [comes_of_none hi]) fun e he => ?_
      rw [step_of_none hi] at he
      cases he
      exact .unknown hi
  | some i =>
      rw [step_of_some hi]
      by_cases hdraws : i.draws
      · obtain ⟨answer, hwork, hresult⟩ :=
          works_execute (m := m.advance) h.width_pos h.height_pos hdraws
        exact .works answer (by rw [comes_of_some hi, hdraws]) hwork hresult
      · exact .idle (by rw [comes_of_some hi]; exact hdraws) fun e => ownError_of_execute hi hdraws

end Step

/-! ### The calls of a step -/

/-- The machine on a display that notes down the calls from now on. -/
def recorded (m : Machine D) : Machine (Recorder D) :=
  m.onto fun d => { inner := d }

/-- The calls that the next step makes, oldest first. -/
def stepCalls [Display D] (m : Machine D) : List Call :=
  m.recorded.step.2.display.calls

theorem Sound.recorded {m : Machine D} (h : m.Sound) : m.recorded.Sound :=
  { h with }

section Step

variable [Display D] {m : Machine D}

theorem displayHom_inner : DisplayHom (Recorder.inner : Recorder D → D) where
  readPixel _ _ _ := rfl
  setPixel _ _ _ _ := rfl
  refresh _ := rfl
  pollKey _ := rfl

/-- Noting down the calls makes no difference to a step. -/
theorem onto_inner_recorded_step (m : Machine D) :
    Outcome.onto Recorder.inner m.recorded.step = m.step :=
  (step_onto displayHom_inner m.recorded).symm

theorem stepCalls_of_not_draws (h : m.Sound) (hdraws : ¬ m.comes Instruction.draws) :
    ∀ call ∈ m.stepCalls, ∃ key, call = .pollKey key := by
  rw [stepCalls, h.recorded.frame.display hdraws]
  split_ifs
  · exact List.forall_mem_singleton.2 ⟨_, rfl⟩
  · exact List.forall_mem_nil _

theorem stepCalls_of_works {answer : Except DisplayError Unit}
    (h : Works m.size m.recorded.display answer m.recorded.step.2.display) :
    (∀ call ∈ m.stepCalls, call.InGrid m.size) ∧ Call.Refreshes true m.stepCalls ∧
      ∀ e, answer = .error e → ∃ call ∈ m.stepCalls, call.failure? = some e := by
  obtain ⟨calls, hcalls, hrest⟩ := Recorder.works_calls h
  have hstep : m.stepCalls = calls := hcalls
  rw [hstep]
  exact hrest

end Step

/-! ### The contract -/

/-- An error that a step passes on from a call of its own that the display refused. -/
inductive DisplayFault [Display D] (m : Machine D) : Error → Prop
  | outOfBounds {row col : Nat} (draws : m.comes Instruction.draws)
      (refused : ∃ call ∈ m.stepCalls, call.failure? = some (.outOfBounds row col)) :
      DisplayFault m (.outOfBounds row col)
  | device {reason : String} (draws : m.comes Instruction.draws)
      (refused : ∃ call ∈ m.stepCalls, call.failure? = some (.device reason)) :
      DisplayFault m (.display reason)

/-- What a step may ask of a display of this size, and how it may end. -/
structure Contract [Display D] (size : DisplaySize) (m : Machine D) (outcome : Outcome D) :
    Prop where
  /-- The calls are those of this very step. -/
  recorded : Outcome.onto Recorder.inner m.recorded.step = outcome
  in_grid : ∀ call ∈ m.stepCalls, call.InGrid size
  refreshes : Call.Refreshes (m.comes Instruction.draws) m.stepCalls
  error : ∀ e, outcome.1 = .error e → OwnError m e ∨ DisplayFault m e
  /-- Pixels that an adapter stores outside the size it reports stay as they are. -/
  outside : ∀ lit : D → Nat → Nat → Bool, Storage lit → ∀ row col, ¬ size.Contains row col →
    lit outcome.2.display row col = lit m.display row col

section Step

variable [Display D] {m : Machine D}

theorem displayFault_of_refused {e : DisplayError} (draws : m.comes Instruction.draws)
    (h : ∃ call ∈ m.stepCalls, call.failure? = some e) : DisplayFault m e.toError := by
  cases e with
  | outOfBounds row col => exact .outOfBounds draws h
  | device reason => exact .device draws h

theorem ownError_of_not_draws (h : m.Sound) (hdraws : ¬ m.comes Instruction.draws) {e : Error}
    (he : m.step.1 = .error e) : OwnError m e := by
  cases h.displayUse with
  | works answer draws => exact absurd draws hdraws
  | idle _ own => exact own e he

theorem lit_step_of_not_contains (h : m.Sound) {lit : D → Nat → Nat → Bool} (hlit : Storage lit)
    {row col : Nat} (hout : ¬ m.size.Contains row col) :
    lit m.step.2.display row col = lit m.display row col := by
  cases h.displayUse with
  | works answer draws work => exact hlit.works hout work
  | idle draws =>
      rw [h.frame.display draws]
      split_ifs
      · rw [hlit.pollKey]
      · rfl

theorem Sound.contract (h : m.Sound) : Contract m.size m m.step := by
  have hrecorded := onto_inner_recorded_step m
  have hresult : m.recorded.step.1 = m.step.1 := congrArg Prod.fst hrecorded
  have houtside : ∀ lit : D → Nat → Nat → Bool, Storage lit → ∀ row col,
      ¬ m.size.Contains row col → lit m.step.2.display row col = lit m.display row col :=
    fun _ hlit _ _ => lit_step_of_not_contains h hlit
  cases h.recorded.displayUse with
  | works answer draws work result =>
      have hdraws : m.comes Instruction.draws = true := draws
      obtain ⟨hgrid, hrefreshes, hfailure⟩ := stepCalls_of_works (m := m) work
      refine ⟨hrecorded, hgrid, hdraws ▸ hrefreshes, fun e he => .inr ?_, houtside⟩
      rw [← hresult, result] at he
      cases answer with
      | ok u => cases he
      | error reason =>
          cases he
          exact displayFault_of_refused draws (hfailure reason rfl)
  | idle draws =>
      -- The recorder saw nothing but the keypad being asked.
      have hcalls := stepCalls_of_not_draws h draws
      have hdraws : m.comes Instruction.draws = false := Bool.eq_false_iff.2 draws
      refine ⟨hrecorded, fun call hmem => ?_, hdraws ▸ Call.refreshes_of_pollKey hcalls,
        fun e he => .inl (ownError_of_not_draws h draws he), houtside⟩
      obtain ⟨key, rfl⟩ := hcalls call hmem
      trivial

end Step

/-! ### A framebuffer of its own size -/

/-- A step over a framebuffer leaves its size alone, and fails by itself if it fails. -/
theorem step_frameBuffer {m : Machine FrameBuffer} (h : m.Sound) (hsize : m.display.size = m.size) :
    m.step.2.display.size = m.step.2.size ∧ ∀ e, m.step.1 = .error e → OwnError m e := by
  rw [size_step]
  cases h.displayUse with
  | works answer _ work result =>
      obtain ⟨rfl, hafter⟩ := FrameBuffer.works_ok hsize work
      refine ⟨hafter, fun e he => ?_⟩
      rw [result] at he
      cases he
  | idle draws own => exact ⟨by rw [h.frame.display_frameBuffer draws, hsize], own⟩

theorem size_play_frameBuffer {m : Machine FrameBuffer} (h : m.Sound)
    (hsize : m.display.size = m.size) (acts : List Act) :
    (m.play acts).display.size = (m.play acts).size := by
  refine (play_induction (P := fun m' => m'.Sound ∧ m'.display.size = m'.size)
    (fun m' a ih => ⟨ih.1.act a, ?_⟩) ⟨h, hsize⟩ acts).2
  cases a with
  | step now =>
      show (m'.stepAt now).2.display.size = (m'.stepAt now).2.size
      rw [stepAt_of_ungated ih.1.ungated]
      exact (step_frameBuffer ih.1 ih.2).1
  | tick => exact ih.2
  | hold key => cases key <;> exact ih.2

/-! ### Every run -/

/-- Whatever display a machine is built around, every step of every run keeps to the contract; and
around a framebuffer a step can only fail by itself. -/
theorem contract_play {b : Blueprint} (ungated : b.gated = false)
    (around : Blueprint.Surroundings) :
    (∀ (D : Type) [Attended D] (display : D) (m : Machine D),
      b.build around display = .ok m → ∀ acts now,
        Contract (Display.size display) (m.play acts) ((m.play acts).stepAt now)) ∧
    ∀ (fb : FrameBuffer) (m : Machine FrameBuffer),
      b.build around fb = .ok m → ∀ acts now e,
        ((m.play acts).stepAt now).1 = .error e → OwnError (m.play acts) e := by
  constructor
  · intro D _ display m h acts now
    obtain ⟨hfits, rfl⟩ := Blueprint.build_eq_ok_iff.1 h
    have hsound := (sound_machine ungated hfits around display).play acts
    rw [stepAt_of_ungated hsound.ungated]
    have hcontract := hsound.contract
    rw [size_play] at hcontract
    exact hcontract
  · intro fb m h acts now e
    obtain ⟨hfits, rfl⟩ := Blueprint.build_eq_ok_iff.1 h
    have hbuilt := sound_machine ungated hfits around fb
    have hsound := hbuilt.play acts
    rw [stepAt_of_ungated hsound.ungated]
    exact (step_frameBuffer hsound (size_play_frameBuffer hbuilt rfl acts)).2 e

/-- Draws the digit 0. -/
def drawsZero : Blueprint :=
  { program := [0xA0, 0x50, 0xD0, 0x05], gated := false }

/-- On a bench that reports less than it stores and cannot be refreshed: two rows of eight pixels
are read and set, and the refresh fails. -/
theorem contract_play_drawsZero :
    let bench : Bench :=
      { frame := .new ⟨8, 4⟩, reported := ⟨4, 2⟩, refreshFault := some "no power" }
    let m := (drawsZero.machine {} bench ⟨4, 2⟩).play [.step 0]
    m.comes Instruction.draws ∧ m.stepCalls.length = 33 ∧
      (m.stepAt 1).1 = .error (.display "no power") ∧ Contract ⟨4, 2⟩ m (m.stepAt 1) ∧
      ∀ row col, ¬ DisplaySize.Contains ⟨4, 2⟩ row col →
        (m.stepAt 1).2.display.frame.lit row col = m.display.frame.lit row col := by
  intro bench m
  have hbuild : drawsZero.build {} bench = .ok (drawsZero.machine {} bench ⟨4, 2⟩) := rfl
  have hcontract : Contract ⟨4, 2⟩ m (m.stepAt 1) :=
    (contract_play rfl {}).1 Bench bench _ hbuild [.step 0] 1
  exact ⟨by decide +kernel, by decide +kernel, by decide +kernel, hcontract,
    fun row col => hcontract.outside _ Bench.storage row col⟩

end Chip8.Machine
