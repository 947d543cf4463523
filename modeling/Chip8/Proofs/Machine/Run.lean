import Chip8.Display.Bench
import Chip8.Machine.Build
import Chip8.Proofs.Machine.Effect
import Mathlib.Tactic.SplitIfs

/-!
Runs. A driver steps a machine and ticks its timers, a user presses and releases keys, in any
order and as often as they like; a step that failed is no reason to stop. A run is the list of
these acts, and `Machine.play` is the machine after it.

What holds at every moment of every run is said about `Machine.Reachable`: the machines that a
run can lead to when the timers are left to the driver. To prove it, one shows it of a machine as
it is built and of each act.
-/

namespace Chip8

/-- A display with somebody at the keypad, who holds one key down or none. -/
class Attended (D : Type) extends Display D where
  hold : Option UInt8 → D → D

instance : Attended FrameBuffer where
  hold
    | some key => fun fb => fb.pressKey key
    | none => fun fb => fb.releaseKey

instance : Attended Bench where
  hold key b := { b with frame := Attended.hold key b.frame }

/-- What can be done to a machine from outside. -/
inductive Act
  /-- One instruction, at an instant. -/
  | step (now : Nat)
  /-- A sixtieth of a second that the driver counts. -/
  | tick
  /-- Another key, or none, is held down from now on. -/
  | hold (key : Option UInt8)
  deriving DecidableEq, Repr

namespace Machine

variable {D : Type} [Attended D]

/-- The answer to an act. Only a step can fail. -/
def answer (m : Machine D) : Act → Outcome D
  | .step now => m.stepAt now
  | .tick => m.tick.done
  | .hold key => done { m with display := Attended.hold key m.display }

/-- The machine after an act, however it ended. -/
def act (m : Machine D) (a : Act) : Machine D :=
  (m.answer a).2

/-- The machine after a run. -/
def play (m : Machine D) (acts : List Act) : Machine D :=
  acts.foldl act m

@[simp] theorem play_nil (m : Machine D) : m.play [] = m := rfl

@[simp] theorem play_cons (m : Machine D) (a : Act) (acts : List Act) :
    m.play (a :: acts) = (m.act a).play acts := rfl

@[simp] theorem play_append (m : Machine D) (acts more : List Act) :
    m.play (acts ++ more) = (m.play acts).play more := by
  simp [play]

theorem play_induction {P : Machine D → Prop} (hact : ∀ m a, P m → P (m.act a))
    {m : Machine D} (h : P m) (acts : List Act) : P (m.play acts) := by
  induction acts generalizing m with
  | nil => exact h
  | cons a acts ih => exact ih (hact m a h)

/-- The machines that a run can lead to, from any machine that can be built without a gate. -/
inductive Reachable : Machine D → Prop
  | built {b : Blueprint} {around : Blueprint.Surroundings} {display : D} {m : Machine D}
      (ungated : b.gated = false) (h : b.build around display = .ok m) : Reachable m
  | act {m : Machine D} (h : Reachable m) (a : Act) : Reachable (m.act a)

theorem Reachable.play {m : Machine D} (h : m.Reachable) (acts : List Act) :
    (m.play acts).Reachable :=
  play_induction (fun _ a h => h.act a) h acts

omit [Attended D]

/-- Without a gate the clock makes no difference to a step. -/
theorem stepAt_of_ungated [Display D] {m : Machine D} (h : m.gate = none) (now : Nat) :
    m.stepAt now = m.step := by
  rw [stepAt, tickUntil, h]

/-- What the gate does depends on the gate and the timers, and nothing else changes. -/
theorem tickUntil_like {E : Type} (m : Machine D) (m' : Machine E) (hgate : m.gate = m'.gate)
    (htimers : m.timers = m'.timers) (now : Nat) :
    m.tickUntil now = { m with
      gate := (m'.tickUntil now).gate
      timers := (m'.tickUntil now).timers } := by
  have hsame : m = { m with gate := m'.gate, timers := m'.timers } := by
    rw [← hgate, ← htimers]
  unfold tickUntil
  rw [hgate, htimers]
  rcases m'.gate.eq_none_or_eq_some with hnone | ⟨gate, hsome⟩
  · rw [hnone]
    exact hsame
  · rw [hsome]
    dsimp only
    rcases gate.dueTicks? now with _ | ⟨due, gate⟩
    · exact hsame
    · rfl

/-- The gate counts the timers down, and that is all. -/
theorem tickUntil_eq (m : Machine D) (now : Nat) :
    ∃ gate timers, m.tickUntil now = { m with gate, timers } :=
  ⟨_, _, m.tickUntil_like m rfl rfl now⟩

/-- A step with the clock is a step of the machine after the gate has looked at it. -/
theorem stepAt_eq [Display D] (m : Machine D) (now : Nat) :
    ∃ gate timers, m.stepAt now = ({ m with gate, timers } : Machine D).step := by
  obtain ⟨gate, timers, hgate⟩ := m.tickUntil_eq now
  exact ⟨gate, timers, congrArg step hgate⟩

/-- The machine behind the next word: the gate has counted, the counter has moved on, and nothing
was executed. -/
def passed (m : Machine D) (now : Nat) : Machine D :=
  { m with gate := (m.tickUntil now).gate, timers := (m.tickUntil now).timers }.advance

theorem passed_of_ungated {m : Machine D} (h : m.gate = none) (now : Nat) :
    m.passed now = m.advance := by
  rw [passed, tickUntil, h]

theorem stepAt_eq_execute [Display D] {m : Machine D} {i : Instruction}
    (h : m.instruction? = some i) (now : Nat) : m.stepAt now = (m.passed now).execute i := by
  rw [stepAt, m.tickUntil_like m rfl rfl now]
  exact step_of_some (m := { m with gate := _, timers := _ }) h

/-- A step that ends well and changes nothing but registers. -/
structure OnlyRegs (m : Machine D) (now : Nat) (outcome : Outcome D) : Prop where
  ok : outcome.1 = .ok ()
  rest : outcome.2 = { m.passed now with regs := outcome.2.regs }
  ungated : m.gate = none →
    outcome.2 = { m with pc := address (m.pc + 2), regs := outcome.2.regs }

theorem onlyRegs_done (m : Machine D) (now : Nat) (regs : Vector UInt8 16) :
    OnlyRegs m now (done { m.passed now with regs }) := by
  refine ⟨rfl, rfl, fun hgate => ?_⟩
  rw [passed_of_ungated hgate]
  rfl

end Machine

/-! ### Building -/

namespace Blueprint

variable {D : Type} [Display D]

/-- What a blueprint and a display have to fulfil for a machine to be built. -/
structure Fits (b : Blueprint) (size : DisplaySize) : Prop where
  width_pos : 0 < size.width
  height_pos : 0 < size.height
  font_le : b.font.length ≤ Font.maxSize
  program_le : b.program.length ≤ maxProgramSize

theorem check_eq_ok_iff {b : Blueprint} {size : DisplaySize} :
    b.check size = .ok () ↔ b.Fits size := by
  unfold check
  constructor
  · intro h
    split_ifs at h with hsize hfont hprogram
    exact ⟨by omega, by omega, by omega, by omega⟩
  · rintro ⟨hw, hh, hfont, hprogram⟩
    rw [if_neg (by omega), if_neg (by omega), if_neg (by omega)]

theorem build_eq_ok_iff {b : Blueprint} {around : Surroundings} {display : D}
    {m : Machine D} :
    b.build around display = .ok m ↔
      b.Fits (Display.size display) ∧ m = b.machine around display (Display.size display) := by
  rw [← check_eq_ok_iff, build]
  cases b.check (Display.size display) with
  | error e => simp [Except.map]
  | ok u => simp [Except.map, eq_comm]

end Blueprint

end Chip8
