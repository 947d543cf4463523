import Chip8.Proofs.Machine.Bounds
import Chip8.Proofs.Machine.Frame
import Chip8.Proofs.Machine.Transport

/-!
Ticks and steps. An instruction that names no timer neither sees them nor touches them, so a tick
may as well come before it as after it. In a run without such instructions it makes no difference
where the ticks stand, and the timers are the only thing that they leave a trace on.

As with the policy, no two states are compared. A machine that was ticked is the same machine at
other timers (`retimed`), and the lemmas say that `retimed` goes past whatever the machine does.
-/

namespace Chip8

/-- Whether the instruction reads or sets a timer. -/
def Instruction.namesTimer : Instruction → Bool
  | .loadDelay _ | .setDelay _ | .setSound _ => true
  | _ => false

namespace Act

/-- What happens to a machine apart from the ticks. -/
def withoutTicks (acts : List Act) : List Act :=
  acts.filter (· ≠ .tick)

/-- The same acts in the same order, with the ticks at other places among them. -/
structure TicksMoved (acts acts' : List Act) : Prop where
  rest_eq : withoutTicks acts' = withoutTicks acts
  ticks_eq : acts'.count .tick = acts.count .tick

@[simp] theorem withoutTicks_tick (acts : List Act) :
    withoutTicks (.tick :: acts) = withoutTicks acts := rfl

@[simp] theorem withoutTicks_step (now : Nat) (acts : List Act) :
    withoutTicks (.step now :: acts) = .step now :: withoutTicks acts := rfl

@[simp] theorem withoutTicks_hold (key : Option UInt8) (acts : List Act) :
    withoutTicks (.hold key :: acts) = .hold key :: withoutTicks acts := rfl

end Act

namespace Machine

variable {D : Type}

/-- The same machine at other timers. -/
def retimed (m : Machine D) (t : Timers) : Machine D :=
  { m with timers := t }

def Outcome.retimed (outcome : Outcome D) (t : Timers) : Outcome D :=
  (outcome.1, outcome.2.retimed t)

/-! ### One step -/

/-- The machine at other timers is the machine in another guise. -/
def clockwork (D : Type) (t : Timers) : Guise D D where
  display := id
  timers _ := t

theorem keeps_clockwork [Display D] (m : Machine D) (t : Timers) {i : Instruction}
    (h : i.namesTimer = false) : (clockwork D t).Keeps m i := by
  cases i with
  | loadDelay | setDelay | setSound => cases h
  | clear | skipKey | skipNotKey | waitKey | shiftRight | shiftLeft | jumpOffset => rfl
  | draw | random => exact ⟨rfl, rfl⟩
  | _ => trivial

theorem step_retimed [Display D] {m : Machine D} (h : ¬ m.comes Instruction.namesTimer)
    (t : Timers) : (m.retimed t).step = Outcome.retimed m.step t := by
  refine step_inGuise (v := clockwork D t) fun i hi => keeps_clockwork m.advance t ?_
  rw [comes_of_some hi] at h
  exact Bool.eq_false_iff.2 h

/-! ### A run -/

variable [Attended D] {m : Machine D}

/-- How the steps of a run end, one after the other. -/
def stepResults (m : Machine D) : List Act → List (Except Error Unit)
  | [] => []
  | .step now :: acts => (m.stepAt now).1 :: (m.act (.step now)).stepResults acts
  | a :: acts => (m.act a).stepResults acts

/-- No step of the run executes an instruction that names a timer. -/
def Quiet (m : Machine D) (acts : List Act) : Prop :=
  ∀ pre now, pre ++ [.step now] <+: acts → ¬ (m.play pre).comes Instruction.namesTimer

theorem quiet_nil (m : Machine D) : m.Quiet [] :=
  avoids_nil Instruction.namesTimer m

theorem quiet_step {now : Nat} {acts : List Act} :
    m.Quiet (.step now :: acts) ↔
      ¬ m.comes Instruction.namesTimer ∧ (m.act (.step now)).Quiet acts :=
  avoids_step

theorem quiet_tick {acts : List Act} : m.Quiet (.tick :: acts) ↔ m.tick.Quiet acts :=
  avoids_tick

theorem quiet_hold {key : Option UInt8} {acts : List Act} :
    m.Quiet (.hold key :: acts) ↔ (m.act (.hold key)).Quiet acts :=
  avoids_hold

theorem stepAt_retimed (h : m.Sound) (hquiet : ¬ m.comes Instruction.namesTimer) (now : Nat)
    (t : Timers) : (m.retimed t).stepAt now = Outcome.retimed (m.stepAt now) t := by
  have hgate : (m.retimed t).gate = none := h.ungated
  rw [stepAt_of_ungated h.ungated, stepAt_of_ungated hgate, step_retimed hquiet]

/-- Which instructions are executed does not depend on the ticks. -/
theorem quiet_retimed (h : m.Sound) (t : Timers) (acts : List Act) :
    (m.retimed t).Quiet acts ↔ m.Quiet (Act.withoutTicks acts) := by
  induction acts generalizing m t with
  | nil => exact iff_of_true (quiet_nil _) (quiet_nil _)
  | cons a acts ih =>
      cases a with
      | step now =>
          rw [Act.withoutTicks_step, quiet_step, quiet_step]
          refine and_congr_right fun hfirst => ?_
          have hstep : (m.retimed t).act (.step now) = (m.act (.step now)).retimed t :=
            congrArg Prod.snd (stepAt_retimed h hfirst now t)
          rw [hstep]
          exact ih (h.act (.step now)) t
      | tick =>
          rw [Act.withoutTicks_tick, quiet_tick]
          exact ih h t.tick
      | hold key =>
          rw [Act.withoutTicks_hold, quiet_hold, quiet_hold]
          exact ih (h.act (.hold key)) t

/-- A quiet run is the run without its ticks, which are then counted off all at once. -/
theorem play_retimed (h : m.Sound) (t : Timers) {acts : List Act}
    (hquiet : m.Quiet (Act.withoutTicks acts)) :
    (m.retimed t).play acts =
        (m.play (Act.withoutTicks acts)).retimed (t.tickN (acts.count .tick)) ∧
      (m.retimed t).stepResults acts = m.stepResults (Act.withoutTicks acts) := by
  induction acts generalizing m t with
  | nil =>
      rw [List.count_nil, Timers.tickN_zero]
      exact ⟨rfl, rfl⟩
  | cons a acts ih =>
      cases a with
      | step now =>
          rw [Act.withoutTicks_step, quiet_step] at hquiet
          have hcount : (Act.step now :: acts).count .tick = acts.count .tick := by simp
          have hstep := stepAt_retimed h hquiet.1 now t
          have hact : (m.retimed t).act (.step now) = (m.act (.step now)).retimed t :=
            congrArg Prod.snd hstep
          obtain ⟨hplay, hresults⟩ := ih (h.act (.step now)) t hquiet.2
          rw [hcount, Act.withoutTicks_step, play_cons, play_cons, stepResults, stepResults, hact,
            hstep, hresults]
          exact ⟨hplay, rfl⟩
      | tick =>
          rw [List.count_cons_self, Nat.add_comm, ← Timers.tickN_tickN]
          exact ih h t.tick hquiet
      | hold key =>
          rw [Act.withoutTicks_hold, quiet_hold] at hquiet
          have hcount : (Act.hold key :: acts).count .tick = acts.count .tick := by simp
          rw [hcount]
          exact ih (h.act (.hold key)) t hquiet

/-- As long as no timer is named, it makes no difference when the timers are ticked. Wherever the
ticks of a run are moved to, the steps end as they did and the machine is the same; and but for the
timers, which are down by the ticks, it is the machine that was never ticked. -/
theorem play_ticks_moved (h : m.Reachable) {acts : List Act} (hquiet : m.Quiet acts) :
    (∀ acts', Act.TicksMoved acts acts' →
      m.stepResults acts' = m.stepResults acts ∧ m.play acts' = m.play acts) ∧
    m.stepResults acts = m.stepResults (Act.withoutTicks acts) ∧
    m.play acts = { m.play (Act.withoutTicks acts) with timers := (m.play acts).timers } ∧
    (m.play acts).timers.delay.toNat = m.timers.delay.toNat - acts.count .tick ∧
    (m.play acts).timers.sound.toNat = m.timers.sound.toNat - acts.count .tick := by
  have hrest : m.Quiet (Act.withoutTicks acts) := (quiet_retimed h.sound m.timers acts).1 hquiet
  obtain ⟨hplay, hresults⟩ := play_retimed h.sound m.timers hrest
  have hplay : m.play acts = _ := hplay
  have hresults : m.stepResults acts = _ := hresults
  refine ⟨fun acts' hmoved => ?_, hresults, ?_, ?_, ?_⟩
  · obtain ⟨hplay', hresults'⟩ := play_retimed h.sound m.timers (hmoved.rest_eq ▸ hrest)
    rw [hmoved.rest_eq] at hplay' hresults'
    rw [hmoved.ticks_eq] at hplay'
    exact ⟨hresults'.trans hresults.symm, hplay'.trans hplay.symm⟩
  · rw [hplay]
    rfl
  · rw [hplay]
    exact toNat_lessOrZero _ _
  · rw [hplay]
    exact toNat_lessOrZero _ _

/-- Waits for a key, then returns from no subroutine. -/
def returns : Blueprint :=
  { program := [0x60, 0x05, 0xF1, 0x0A, 0x00, 0xEE], timers := ⟨2, 200⟩, gated := false }

/-- Three ticks among the steps, or all of them before. The delay timer stops at zero. -/
theorem play_ticks_moved_returns :
    let frame := FrameBuffer.new ⟨8, 4⟩
    let m := returns.machine {} frame ⟨8, 4⟩
    let acts : List Act := [.step 0, .tick, .step 1, .hold (some 7), .tick, .step 2, .tick, .step 3]
    let acts' : List Act :=
      [.tick, .tick, .tick, .step 0, .step 1, .hold (some 7), .step 2, .step 3]
    m.Reachable ∧ m.Quiet acts ∧ Act.TicksMoved acts acts' ∧
      m.stepResults acts' = [.ok (), .ok (), .ok (), .error .stackUnderflow] ∧
      m.play acts' = m.play acts ∧ (m.play acts).reg 1 = 7 ∧
      (m.play acts).timers.delay.toNat = 0 ∧ (m.play acts).timers.sound.toNat = 197 := by
  intro frame m acts acts'
  have hbuild : returns.build {} frame = .ok m := rfl
  have hreachable : m.Reachable := .built rfl hbuild
  have hrun : (∀ pre ∈ acts.inits, ¬ (m.play pre).comes Instruction.namesTimer) ∧
      m.stepResults acts = [.ok (), .ok (), .ok (), .error .stackUnderflow] ∧
      (m.play acts).reg 1 = 7 := by
    decide +kernel
  obtain ⟨hinits, hresults, hkey⟩ := hrun
  have hquiet : m.Quiet acts := by
    intro pre now hpre
    exact hinits pre ((List.mem_inits _ _).2 ((List.prefix_append _ _).trans hpre))
  have hmoved : Act.TicksMoved acts acts' := ⟨by decide, by decide⟩
  obtain ⟨hsame, -, -, hdelay, hsound⟩ := play_ticks_moved hreachable hquiet
  obtain ⟨hresults', hplay'⟩ := hsame acts' hmoved
  exact ⟨hreachable, hquiet, hmoved, hresults'.trans hresults, hplay', hkey, hdelay, hsound⟩

end Machine

end Chip8
