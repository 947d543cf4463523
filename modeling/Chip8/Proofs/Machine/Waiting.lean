import Chip8.Proofs.Display.History
import Chip8.Proofs.Machine.Contract
import Chip8.Proofs.Machine.Ticks

/-!
Waiting for a key. `FX0A` waits by going back: it is fetched, the counter moves on, there is no key,
and the counter is put back to where it was. So a machine that waits does not move, however often it
is stepped and wherever in memory it stands, and what goes on around it, ticks and keys that come
and go between two steps, is all that is left of the time. The key that ends the wait is the one
that `EX9E` and `EXA1` ask for.
-/

namespace Chip8.Machine

/-! ### The key in a framebuffer -/

theorem and_eq_self {key : UInt8} (h : key.toNat < 16) : key &&& 0xF = key := by
  apply UInt8.toNat_inj.1
  rw [FrameBuffer.toNat_and_fifteen]
  exact Nat.mod_eq_of_lt h

/-- A machine neither presses keys nor releases them. -/
theorem key_step {m : Machine FrameBuffer} (h : m.Sound) :
    m.step.2.display.key = m.display.key := by
  cases h.displayUse with
  | works answer draws work =>
      exact work.view_eq (fun _ _ _ => rfl) FrameBuffer.key_setPixel fun _ => rfl
  | idle draws => rw [h.frame.display_frameBuffer draws]

theorem key_act {m : Machine FrameBuffer} (h : m.Sound)
    (hkey : ∀ key ∈ m.display.key, key.toNat < 16) (a : Act) :
    ∀ key ∈ (m.act a).display.key, key.toNat < 16 := by
  cases a with
  | step now =>
      show ∀ key ∈ (m.stepAt now).2.display.key, _
      rw [stepAt_of_ungated h.ungated, key_step h]
      exact hkey
  | tick => exact hkey
  | hold key =>
      cases key with
      | some key => exact FrameBuffer.key_serve hkey (.pressKey key)
      | none => exact FrameBuffer.key_serve hkey .releaseKey

/-- In a run a key has four bits at any time if it had to begin with. -/
theorem key_play {m : Machine FrameBuffer} (h : m.Sound)
    (hkey : ∀ key ∈ m.display.key, key.toNat < 16) (acts : List Act) :
    ∀ key ∈ (m.play acts).display.key, key.toNat < 16 := by
  induction acts generalizing m with
  | nil => exact hkey
  | cons a acts ih => exact ih (h.act a) (key_act h hkey a)

/-! ### Registers that are not written -/

theorem reg_play [Attended D] {m : Machine D} (h : m.Sound) {x : Nibble} {acts : List Act}
    (havoids : Avoids (Instruction.mayWrite x) m acts) : (m.play acts).reg x = m.reg x := by
  induction acts generalizing m with
  | nil => rfl
  | cons a acts ih =>
      rw [play_cons]
      cases a with
      | step now =>
          obtain ⟨hfirst, hrest⟩ := avoids_step.1 havoids
          have hreg : (m.act (.step now)).reg x = m.reg x := by
            show (m.stepAt now).2.reg x = m.reg x
            rw [stepAt_of_ungated h.ungated]
            by_contra hne
            exact hfirst (h.frame.regs x hne)
          rw [ih (h.act _) hrest, hreg]
      | tick => exact ih h.tick (avoids_tick.1 havoids)
      | hold key => exact ih (h.act (.hold key)) (avoids_hold.1 havoids)

section FrameBuffer

variable {m : Machine FrameBuffer} {x : Nibble} {k : UInt8} {acts : List Act}

/-! ### One step -/

/-- No key is held. -/
def Unattended (m : Machine FrameBuffer) : Prop :=
  m.display.key = none

/-- A framebuffer that is asked for its key stays as it is. -/
theorem withKey_of_key {key : Option UInt8} (hkey : m.display.key = key)
    (f : Option UInt8 → Machine FrameBuffer → Machine FrameBuffer) : m.withKey f = f key m :=
  congrArg (f · m) hkey

theorem stepAt_waitKey (h : m.Sound) (hwait : m.instruction? = some (.waitKey x))
    (hkey : m.Unattended) (now : Nat) : m.stepAt now = m.done := by
  rw [stepAt_of_ungated h.ungated, step_of_some hwait, execute, waitKey,
    withKey_of_key (m := m.advance) hkey, address_rewind h.pc_lt]
  rfl

theorem stepAt_waitKey_of_key (h : m.Sound) (hwait : m.instruction? = some (.waitKey x))
    (hkey : m.display.key = some k) (hk : k.toNat < 16) (now : Nat) :
    m.stepAt now =
      done { m.setReg x k with pc := address (m.pc + 2) } := by
  rw [stepAt_of_ungated h.ungated, step_of_some hwait, execute, waitKey,
    withKey_of_key (m := m.advance) hkey]
  show done { m.setReg x (k &&& 0xF) with pc := address (m.pc + 2) } = _
  rw [and_eq_self hk]

/-- The skips take the key in VX for the one that is held. -/
structure KeyMatches (m : Machine FrameBuffer) (x : Nibble) : Prop where
  skips : m.instruction? = some (.skipKey x) → ∀ now,
    m.stepAt now = done { m with pc := address (m.pc + 4) }
  goes_on : m.instruction? = some (.skipNotKey x) → ∀ now,
    m.stepAt now = done { m with pc := address (m.pc + 2) }

theorem keyMatches_of_key (h : m.Sound) (hkey : m.display.key = some (m.reg x)) :
    KeyMatches m x := by
  have hsame : (some (m.reg x) == some (m.advance.reg x)) = true := beq_self_eq_true _
  constructor
  case skips =>
    intro hskip now
    rw [stepAt_of_ungated h.ungated, step_of_some hskip, execute,
      withKey_of_key (m := m.advance) hkey, skipIf_eq, if_pos hsame, address_skip]
    rfl
  case goes_on =>
    intro hskip now
    have hdiffers : ¬ (some (m.reg x) != some (m.advance.reg x)) = true := by
      rw [bne, hsame]
      exact Bool.false_ne_true
    rw [stepAt_of_ungated h.ungated, step_of_some hskip, execute,
      withKey_of_key (m := m.advance) hkey, skipIf_eq, if_neg hdiffers]
    rfl

/-! ### A wait of any length -/

/-- As long as no step finds a key, nothing happens but that ticks are counted and keys are pressed
and released. -/
theorem play_waiting (h : m.Sound) (hwait : m.instruction? = some (.waitKey x))
    (hidle : AtSteps Unattended m acts) :
    (∀ result ∈ m.stepResults acts, result = .ok ()) ∧
      ∃ key, m.play acts = { m with
        timers := m.timers.tickN (acts.count .tick)
        display := { m.display with key } } := by
  induction acts generalizing m with
  | nil =>
      rw [List.count_nil, Timers.tickN_zero]
      exact ⟨List.forall_mem_nil _, m.display.key, rfl⟩
  | cons a acts ih =>
      rw [play_cons]
      cases a with
      | step now =>
          obtain ⟨hfirst, hrest⟩ := atSteps_step.1 hidle
          have hstep := stepAt_waitKey h hwait hfirst now
          have hact : m.act (.step now) = m := congrArg Prod.snd hstep
          have hcount : (Act.step now :: acts).count .tick = acts.count .tick := by simp
          rw [hact] at hrest ⊢
          obtain ⟨hresults, hplay⟩ := ih h hwait hrest
          rw [stepResults, hact, hstep, hcount]
          exact ⟨List.forall_mem_cons.2 ⟨rfl, hresults⟩, hplay⟩
      | tick =>
          rw [List.count_cons_self, Nat.add_comm, ← Timers.tickN_tickN]
          exact ih h.tick hwait (atSteps_tick.1 hidle)
      | hold key =>
          have hcount : (Act.hold key :: acts).count .tick = acts.count .tick := by simp
          rw [hcount]
          have hrest := ih (h.act (.hold key)) hwait (atSteps_hold.1 hidle)
          cases key <;> exact hrest

end FrameBuffer

/-- `FX0A` in any run on a framebuffer, wherever the program counter stands. As long as no key is held
when a step is taken, the steps succeed and leave everything as it is. The first step that finds a
key leaves it in VX, moves on, and does nothing else; and until VX is written again, `EX9E` and
`EXA1` find that this key is held while it is. -/
theorem waits_for_key {b : Blueprint} {around : Blueprint.Surroundings} {size : DisplaySize}
    {foreground background : Color} {history : List Request} {built : Machine FrameBuffer}
    (ungated : b.gated = false)
    (hbuild : b.build around ((FrameBuffer.new size foreground background).serveAll history) =
      .ok built)
    (before acts : List Act) {x : Nibble}
    (hwait : (built.play before).instruction? = some (.waitKey x))
    (hidle : AtSteps Unattended (built.play before) acts) :
    let m := built.play before
    let waited := m.play acts
    (∀ result ∈ m.stepResults acts, result = .ok ()) ∧
    waited = { m with
      timers := m.timers.tickN (acts.count .tick)
      display := { m.display with key := waited.display.key } } ∧
    ∀ k now, waited.display.key = some k →
      let woken := (waited.stepAt now).2
      waited.stepAt now =
        done { waited.setReg x k with pc := address (m.pc + 2) } ∧
      ∀ later, Avoids (Instruction.mayWrite x) woken later →
        (woken.play later).display.key = some k → KeyMatches (woken.play later) x := by
  intro m waited
  have hbuilt : built.Sound := (Reachable.built ungated hbuild).sound
  have hsound : m.Sound := hbuilt.play before
  obtain ⟨hresults, key, hplay⟩ := play_waiting hsound hwait hidle
  have hwaited : waited = { m with
      timers := m.timers.tickN (acts.count .tick)
      display := { m.display with key } } := hplay
  have hkey : waited.display.key = key := by rw [hwaited]
  refine ⟨hresults, by rw [hkey]; exact hwaited, fun k now hheld => ?_⟩
  intro woken
  have hfirst : ∀ key ∈ built.display.key, key.toNat < 16 := by
    obtain ⟨-, rfl⟩ := Blueprint.build_eq_ok_iff.1 hbuild
    exact FrameBuffer.key_serveAll size foreground background history
  have hk : k.toNat < 16 :=
    key_play hsound (key_play hbuilt hfirst before) acts k hheld
  have hstill : waited.instruction? = some (.waitKey x) := by rw [hwaited]; exact hwait
  have hpc : waited.pc = m.pc := by rw [hwaited]
  have hsoundWaited : waited.Sound := hsound.play acts
  have hstep := stepAt_waitKey_of_key hsoundWaited hstill hheld hk now
  rw [hpc] at hstep
  refine ⟨hstep, fun later havoids hlater => ?_⟩
  have hsoundWoken : woken.Sound := hsoundWaited.act (.step now)
  have hreg : (woken.play later).reg x = k := by
    rw [reg_play hsoundWoken havoids]
    show (waited.stepAt now).2.reg x = k
    rw [hstep]
    exact reg_setReg_self waited x k
  exact keyMatches_of_key (hsoundWoken.play later) (by rw [hreg]; exact hlater)

/-- Writes `F10A` to the last byte of memory and the first, and `E19E` behind it, and goes there. -/
def waitsAcross : Blueprint where
  program :=
    [0x60, 0xF1, 0x61, 0x0A, 0x62, 0xE1, 0x63, 0x9E, 0xAF, 0xFF, 0xF3, 0x55, 0x1F, 0xFF]
  timers := ⟨1, 200⟩
  gated := false

/-- Two keys come and go unseen, and the third one is found. -/
theorem waits_for_key_across :
    let acts : List Act :=
      [.step 7, .tick, .hold (some 5), .hold none, .step 8, .tick, .hold (some 6), .hold (some 0xC)]
    let m := (waitsAcross.machine {} (FrameBuffer.new ⟨8, 4⟩) ⟨8, 4⟩).play
      ((List.range 7).map .step)
    let waited := m.play acts
    let woken := (waited.stepAt 9).2
    m.pc = 0xFFF ∧ m.instruction? = some (.waitKey 1) ∧ AtSteps Unattended m acts ∧
      waited.pc = 0xFFF ∧ waited.timers = ⟨0, 198⟩ ∧ waited.display.key = some 0xC ∧
      woken.pc = 0x001 ∧ woken.reg 1 = 0xC ∧ (woken.stepAt 10).2.pc = 0x005 := by
  intro acts
  have hbuild : waitsAcross.build {} ((FrameBuffer.new ⟨8, 4⟩).serveAll []) =
    .ok (waitsAcross.machine {} (FrameBuffer.new ⟨8, 4⟩) ⟨8, 4⟩) := rfl
  have hrun :
      let m := (waitsAcross.machine {} (FrameBuffer.new ⟨8, 4⟩) ⟨8, 4⟩).play
        ((List.range 7).map .step)
      m.pc = 0xFFF ∧ m.instruction? = some (.waitKey 1) ∧ m.timers = ⟨1, 200⟩ ∧
        m.display.key = none ∧
        Instruction.decode? (m.memory.readWord 0x001) = some (.skipKey 1) := by
    decide +kernel
  have hwaits := waits_for_key (x := 1) rfl hbuild ((List.range 7).map .step) acts
  -- The machine gets a name, so that it is not evaluated once more where its fields are compared.
  obtain ⟨m, hm⟩ : ∃ m, m = (waitsAcross.machine {} (FrameBuffer.new ⟨8, 4⟩) ⟨8, 4⟩).play
    ((List.range 7).map .step) := ⟨_, rfl⟩
  rw [← hm] at hrun hwaits ⊢
  dsimp only
  obtain ⟨hpc, hwait, htimers, hkey, hnext⟩ := hrun
  have hidle : AtSteps Unattended m acts := by
    refine atSteps_step.2 ⟨hkey, atSteps_tick.2 (atSteps_hold.2 (atSteps_hold.2 ?_))⟩
    refine atSteps_step.2 ⟨rfl, atSteps_tick.2 (atSteps_hold.2 (atSteps_hold.2 ?_))⟩
    exact atSteps_nil _ _
  obtain ⟨-, hwaited, hwakes⟩ := hwaits hwait hidle
  have hheld : (m.play acts).display.key = some 0xC := rfl
  generalize m.play acts = waited at hwaited hwakes hheld ⊢
  have hticks : acts.count .tick = 2 := rfl
  rw [hheld, hticks] at hwaited
  obtain ⟨hstep, hlater⟩ := hwakes 0xC 9 hheld
  have hmatches := hlater [] (avoids_nil _ _) (by rw [play_nil, hstep]; exact hheld)
  rw [play_nil] at hmatches
  rw [hstep, done_snd] at hmatches
  have hnextPc : address (m.pc + 2) = 0x001 := by
    rw [hpc]
    decide
  rw [hnextPc] at hstep hmatches
  have hskip : ({ waited.setReg 1 0xC with pc := 0x001 } :
      Machine FrameBuffer).instruction? = some (.skipKey 1) := by
    rw [hwaited]
    exact hnext
  rw [hstep]
  refine ⟨hpc, hwait, hidle, ?_, ?_, hheld, rfl, ?_, ?_⟩
  · rw [hwaited, hpc]
  · rw [hwaited, htimers]
    rfl
  · exact reg_setReg_self waited 1 0xC
  · rw [done_snd, hmatches.skips hskip]
    show address (0x001 + 4) = 0x005
    decide

end Chip8.Machine
