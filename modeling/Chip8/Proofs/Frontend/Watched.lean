import Chip8.Frontend.Runner
import Chip8.Proofs.Machine.Transport

/-!
A front end that somebody watches: every question, tone and picture of the loop is noted down, and
when the front end was let go. Watching is a map between front ends that goes along with every call
(`FrontendHom`), so a run on the watched one is the same run, and what was noted down during it is
something that can be said about the run itself (`Runner.events`).
-/

namespace Chip8

/-! ### Maps between front ends -/

section Hom

variable {D E : Type} [Frontend D] [Frontend E] {f : D → E}

structure FrontendHom (f : D → E) : Prop extends DisplayHom f where
  await : ∀ now d, Frontend.await now (f d) = f (Frontend.await now d)
  quitRequested : ∀ d, Frontend.quitRequested (f d) =
    ((Frontend.quitRequested d).1, f (Frontend.quitRequested d).2)
  present : ∀ d, Frontend.present (f d) = ((Frontend.present d).1, f (Frontend.present d).2)
  setTone : ∀ on d, Frontend.setTone on (f d) =
    ((Frontend.setTone on d).1, f (Frontend.setTone on d).2)

namespace Runner

def onto {D E : Type} (f : D → E) (r : Runner D) : Runner E where
  machine := r.machine.onto f
  start := r.start
  tone := r.tone
  nextFrame := r.nextFrame
  log := r.log

theorem draw_onto (hf : FrontendHom f) (shown : Nat) (r : Runner D) :
    (r.onto f).draw shown = ((r.draw shown).1, (r.draw shown).2.onto f) := by
  unfold draw
  show (if shown < r.nextFrame then _ else _) = _
  by_cases hearly : shown < r.nextFrame
  · rw [if_pos hearly, if_pos hearly]
  · have hpresent : Frontend.present (r.onto f).machine.display = _ :=
      hf.present r.machine.display
    rw [if_neg hearly, if_neg hearly, hpresent]
    rcases Frontend.present r.machine.display with ⟨_ | _, d⟩ <;> rfl

theorem sound_onto (hf : FrontendHom f) (shown : Nat) (r : Runner D) :
    (r.onto f).sound shown = ((r.sound shown).1, (r.sound shown).2.onto f) := by
  unfold sound
  show (if r.machine.soundActive = r.tone then _ else _) = _
  by_cases hsame : r.machine.soundActive = r.tone
  · dsimp only
    rw [if_pos hsame, if_pos hsame]
    exact draw_onto hf shown r
  · have htone : Frontend.setTone (r.onto f).machine.soundActive (r.onto f).machine.display = _ :=
      hf.setTone r.machine.soundActive r.machine.display
    dsimp only
    rw [if_neg hsame, if_neg hsame, htone]
    rcases Frontend.setTone r.machine.soundActive r.machine.display with ⟨_ | _, d⟩
    · rfl
    · exact draw_onto hf shown
        { r with machine := { r.machine with display := d }, tone := r.machine.soundActive }

/-- The machine with the front end that was asked whether to stop. -/
def asked {D : Type} [Frontend D] (instants : Instants) (r : Runner D) : Machine D :=
  { r.machine with
    display := (Frontend.quitRequested
      (Frontend.await (r.start + instants.stepped) r.machine.display)).2 }

/-- What the front end answers when it is asked whether to stop. -/
def stops {D : Type} [Frontend D] (instants : Instants) (r : Runner D) : Bool :=
  (Frontend.quitRequested
    (Frontend.await (r.start + instants.stepped) r.machine.display)).1

/-- A turn is a question, a step and what comes after a step. -/
theorem turn_eq {D : Type} [Frontend D] (instants : Instants) (r : Runner D) :
    r.turn instants =
      if r.stops instants then
        (some .quit, { r with
          machine := r.asked instants
          log := r.log.push ⟨.info, "termination requested"⟩ })
      else
        match (r.asked instants).stepAt (r.start + instants.stepped) with
        | (.error e, machine) =>
          (some (.halted e), { r with
            machine
            log := (r.log ++ (r.asked instants).stepLog).push (haltLine machine e) })
        | (.ok (), machine) =>
          sound instants.shown { r with machine, log := r.log ++ (r.asked instants).stepLog } := rfl

theorem turn_onto (hf : FrontendHom f) (instants : Instants) (r : Runner D) :
    (r.onto f).turn instants = ((r.turn instants).1, (r.turn instants).2.onto f) := by
  have hquestion : Frontend.quitRequested
      (Frontend.await (r.start + instants.stepped) (r.onto f).machine.display) = _ :=
    (congrArg Frontend.quitRequested (hf.await _ r.machine.display)).trans (hf.quitRequested _)
  have hstops : (r.onto f).stops instants = r.stops instants := congrArg Prod.fst hquestion
  have hasked : (r.onto f).asked instants = (r.asked instants).onto f :=
    congrArg (fun d => ({ r.machine with display := d } : Machine E)) (congrArg Prod.snd hquestion)
  have hstep : ((r.onto f).asked instants).stepAt ((r.onto f).start + instants.stepped) =
      Machine.Outcome.onto f ((r.asked instants).stepAt (r.start + instants.stepped)) := by
    rw [hasked]
    exact Machine.stepAt_onto hf.toDisplayHom (r.asked instants) _
  rw [turn_eq, turn_eq, hstops]
  by_cases hquit : r.stops instants
  · rw [if_pos hquit, if_pos hquit, hasked]
    rfl
  · rw [if_neg hquit, if_neg hquit]
    rw [hstep, hasked]
    rcases (r.asked instants).stepAt (r.start + instants.stepped) with ⟨_ | _, machine⟩
    · rfl
    · exact sound_onto hf instants.shown { r with machine, log := _ }

theorem run_onto (hf : FrontendHom f) (clock : Nat → Instants) (turns k : Nat) (r : Runner D) :
    run clock turns k (r.onto f) =
      ((run clock turns k r).1, (run clock turns k r).2.onto f) := by
  induction turns generalizing k r with
  | zero => rfl
  | succ turns ih =>
      rw [run, run, turn_onto hf]
      rcases r.turn (clock k) with ⟨_ | ending, r₁⟩
      · exact ih (k + 1) r₁
      · rfl

end Runner

end Hom

/-! ### Noting down -/

/-- A call of the loop to its front end, with what was answered. -/
inductive Event
  | asked (quit : Bool)
  | toned (on : Bool) (answer : Except String Unit)
  | presented (answer : Except String Unit)
  | terminated

namespace Event

/-- Why the front end could not do what it was told. -/
def failure? : Event → Option String
  | toned _ (.error reason) | presented (.error reason) => some reason
  | _ => none

/-- What the user answered, if that is what was asked. -/
def answer? : Event → Option Bool
  | asked quit => some quit
  | _ => none

def isPicture : Event → Bool
  | presented _ => true
  | _ => false

end Event

structure Watched (D : Type) where
  inner : D
  /-- The calls so far, oldest first. -/
  events : List Event := []

namespace Watched

variable {D : Type}

def note (w : Watched D) (inner : D) (event : Event) : Watched D where
  inner
  events := w.events ++ [event]

instance [Display D] : Display (Watched D) where
  size w := Display.size w.inner
  readPixel w row col :=
    let (answer, inner) := Display.readPixel w.inner row col
    (answer, { w with inner })
  setPixel w row col lit :=
    let (answer, inner) := Display.setPixel w.inner row col lit
    (answer, { w with inner })
  refresh w :=
    let (answer, inner) := Display.refresh w.inner
    (answer, { w with inner })
  pollKey w :=
    let (key, inner) := Display.pollKey w.inner
    (key, { w with inner })
  terminate w := w.note (Display.terminate w.inner) .terminated

instance [Frontend D] : Frontend (Watched D) where
  await now w := { w with inner := Frontend.await now w.inner }
  quitRequested w :=
    let (quit, inner) := Frontend.quitRequested w.inner
    (quit, w.note inner (.asked quit))
  present w :=
    let (answer, inner) := Frontend.present w.inner
    (answer, w.note inner (.presented answer))
  setTone on w :=
    let (answer, inner) := Frontend.setTone on w.inner
    (answer, w.note inner (.toned on answer))

theorem frontendHom_inner [Frontend D] : FrontendHom (inner : Watched D → D) where
  readPixel _ _ _ := rfl
  setPixel _ _ _ _ := rfl
  refresh _ := rfl
  pollKey _ := rfl
  await _ _ := rfl
  quitRequested _ := rfl
  present _ := rfl
  setTone _ _ := rfl

/-- A step asks nothing that is noted down. -/
theorem events_stepAt [Display D] (m : Machine (Watched D)) (now : Nat) :
    (m.stepAt now).2.display.events = m.display.events := by
  -- Beside what was noted so far, the watched display is the one inside.
  have hhom : DisplayHom fun d : D => (⟨d, m.display.events⟩ : Watched D) := by
    constructor <;> intros <;> rfl
  have hstep := Machine.stepAt_onto hhom (m.onto inner) now
  exact congrArg (fun outcome => outcome.2.display.events) hstep

end Watched

namespace Runner

variable {D : Type}

/-- A run whose front end is watched from now on. -/
def watched (r : Runner D) : Runner (Watched D) :=
  r.onto fun d => { inner := d }

variable [Frontend D]

/-- The calls of a run to its front end, oldest first. -/
def events (clock : Nat → Instants) (turns : Nat) (r : Runner D) : List Event :=
  (run clock turns 0 r.watched).2.machine.display.events

/-- Watching makes no difference to a run. -/
theorem run_watched (clock : Nat → Instants) (turns : Nat) (r : Runner D) :
    run clock turns 0 r =
      ((run clock turns 0 r.watched).1, (run clock turns 0 r.watched).2.onto Watched.inner) :=
  run_onto Watched.frontendHom_inner clock turns 0 r.watched

end Runner

end Chip8
