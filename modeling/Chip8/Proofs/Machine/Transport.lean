import Chip8.Proofs.Machine.Effect
import Chip8.Proofs.Machine.Run

/-!
A machine knows its display by its calls alone, and most instructions look neither at the policy nor
at the timers nor at the generator. So a machine can be put in another guise, in which these four are
others (`Guise`), and a step in the new guise is the old step as long as its instruction finds the
same there (`Guise.Keeps`). That is shown once, in `execute_inGuise`. Who wants to compare two
machines says in which guise one is the other, and which instructions keep the guise.

The guise that is needed most is another display behind the same calls (`DisplayHom`). Every
instruction keeps it.
-/

namespace Chip8

section Hom

variable {D E : Type} [Display D] [Display E] {f : D → E}

/-- A map between displays that goes along with every call of a step. -/
structure DisplayHom (f : D → E) : Prop where
  readPixel : ∀ d row col, Display.readPixel (f d) row col =
    ((Display.readPixel d row col).1, f (Display.readPixel d row col).2)
  setPixel : ∀ d row col lit, Display.setPixel (f d) row col lit =
    ((Display.setPixel d row col lit).1, f (Display.setPixel d row col lit).2)
  refresh : ∀ d, Display.refresh (f d) = ((Display.refresh d).1, f (Display.refresh d).2)
  pollKey : ∀ d, Display.pollKey (f d) = ((Display.pollKey d).1, f (Display.pollKey d).2)

/-- A map between displays that goes along with the calls for pixels. -/
structure PixelHom (f : D → E) : Prop where
  readPixel : ∀ d row col, Display.readPixel (f d) row col =
    ((Display.readPixel d row col).1, f (Display.readPixel d row col).2)
  setPixel : ∀ d row col lit, Display.setPixel (f d) row col lit =
    ((Display.setPixel d row col lit).1, f (Display.setPixel d row col lit).2)

namespace PixelHom

theorem wipe_eq (hf : PixelHom f) (pixels : List (Nat × Nat)) (d : D) :
    wipe (f d) pixels = ((wipe d pixels).1, f (wipe d pixels).2) := by
  induction pixels generalizing d with
  | nil => rfl
  | cons p pixels ih =>
      obtain ⟨row, col⟩ := p
      rw [wipe, wipe, hf.setPixel]
      rcases Display.setPixel d row col false with ⟨_ | _, d₁⟩
      · rfl
      · exact ih d₁

theorem plot_eq (hf : PixelHom f) (dots : List Dot) (d : D) (hit : Bool) :
    plot (f d) hit dots =
      ((plot d hit dots).1, (plot d hit dots).2.1, f (plot d hit dots).2.2) := by
  induction dots generalizing d hit with
  | nil => rfl
  | cons dot dots ih =>
      rw [plot, plot, hf.readPixel]
      rcases Display.readPixel d dot.row dot.col with ⟨_ | before, d₁⟩
      · rfl
      · dsimp only
        rw [hf.setPixel]
        rcases Display.setPixel d₁ dot.row dot.col (before ^^ dot.lit) with ⟨_ | _, d₂⟩
        · rfl
        · exact ih d₂ _

/-- A map that goes along with a refresh as well goes along with clearing. -/
theorem wipeAndRefresh_eq (hf : PixelHom f)
    (hrefresh : ∀ d, Display.refresh (f d) = ((Display.refresh d).1, f (Display.refresh d).2))
    (pixels : List (Nat × Nat)) (d : D) :
    wipeAndRefresh (f d) pixels =
      ((wipeAndRefresh d pixels).1, f (wipeAndRefresh d pixels).2) := by
  unfold wipeAndRefresh
  rw [hf.wipe_eq]
  rcases wipe d pixels with ⟨_ | _, d₁⟩
  · rfl
  · exact hrefresh d₁

theorem plotAndRefresh_eq (hf : PixelHom f)
    (hrefresh : ∀ d, Display.refresh (f d) = ((Display.refresh d).1, f (Display.refresh d).2))
    (dots : List Dot) (d : D) :
    plotAndRefresh (f d) dots = ((plotAndRefresh d dots).1, (plotAndRefresh d dots).2.1,
      f (plotAndRefresh d dots).2.2) := by
  unfold plotAndRefresh
  rw [hf.plot_eq]
  rcases plot d false dots with ⟨_ | _, hit, d₁⟩
  · rfl
  · dsimp only
    rw [hrefresh]

end PixelHom

theorem DisplayHom.pixelHom (hf : DisplayHom f) : PixelHom f :=
  { hf with }

end Hom

namespace Machine

variable {D E : Type}

/-- The same machine on another display. -/
def onto (f : D → E) (m : Machine D) : Machine E :=
  { m with display := f m.display }

/-- The same outcome, with the machine on another display. -/
def Outcome.onto (f : D → E) (outcome : Outcome D) : Outcome E :=
  (outcome.1, outcome.2.onto f)

end Machine

/-! ### Another guise -/

/-- What may be another in a machine while its steps stay the same. -/
structure Guise (D E : Type) where
  display : D → E
  compat : Compatibility → Compatibility := id
  timers : Timers → Timers := id
  random : Random → Random := id

namespace Machine

variable {D E : Type}

/-- The same machine in another guise. -/
def inGuise (v : Guise D E) (m : Machine D) : Machine E :=
  { m with
    display := v.display m.display
    compat := v.compat m.compat
    timers := v.timers m.timers
    random := v.random m.random }

def Outcome.inGuise (v : Guise D E) (outcome : Outcome D) : Outcome E :=
  (outcome.1, outcome.2.inGuise v)

end Machine

/-- What an instruction finds in the new guise is what it finds in the old one, and what it leaves
there is what it would have left. -/
def Guise.Keeps {D E : Type} [Display D] [Display E] (v : Guise D E) (m : Machine D) :
    Instruction → Prop
  | .clear =>
    let work := wipeAndRefresh m.display m.size.positions
    wipeAndRefresh (v.display m.display) m.size.positions = (work.1, v.display work.2)
  | .draw x y n =>
    let work := plotAndRefresh m.display (m.spriteDots x y n)
    (m.inGuise v).spriteDots x y n = m.spriteDots x y n ∧
      plotAndRefresh (v.display m.display) (m.spriteDots x y n) =
        (work.1, work.2.1, v.display work.2.2)
  | .skipKey _ | .skipNotKey _ | .waitKey _ =>
    let polled := Display.pollKey m.display
    Display.pollKey (v.display m.display) = (polled.1, v.display polled.2)
  | .shiftRight x y | .shiftLeft x y => (m.inGuise v).shiftSource x y = m.shiftSource x y
  | .jumpOffset nnn => (m.inGuise v).offsetTarget nnn = m.offsetTarget nnn
  | .random .. =>
    (v.random m.random).peek = m.random.peek ∧
      (v.random m.random).advance = v.random m.random.advance
  | .loadDelay _ => (v.timers m.timers).delay = m.timers.delay
  | .setDelay x =>
    { v.timers m.timers with delay := m.reg x } = v.timers { m.timers with delay := m.reg x }
  | .setSound x =>
    { v.timers m.timers with sound := m.reg x } = v.timers { m.timers with sound := m.reg x }
  | _ => True

namespace Machine

variable {D E : Type}

section Guise

variable (v : Guise D E)

theorem finish_inGuise (m : Machine D) (answer : Except DisplayError Unit) :
    (m.inGuise v).finish answer = Outcome.inGuise v (m.finish answer) := by
  cases answer <;> rfl

theorem skipIf_inGuise (m : Machine D) (condition : Bool) :
    (m.inGuise v).skipIf condition = (m.skipIf condition).inGuise v := by
  cases condition <;> rfl

/-- The gate looks at the timers, so they have to be the same. -/
theorem tickUntil_inGuise (htimers : v.timers = id) (m : Machine D) (now : Nat) :
    (m.inGuise v).tickUntil now = (m.tickUntil now).inGuise v := by
  have hsame : m.timers = (m.inGuise v).timers := by rw [inGuise, htimers]; rfl
  rw [(m.inGuise v).tickUntil_like m rfl hsame.symm now, m.tickUntil_like m rfl rfl now]
  unfold inGuise
  rw [htimers]
  rfl

end Guise

variable [Display D] [Display E] {v : Guise D E}

theorem execute_inGuise {m : Machine D} {i : Instruction} (h : v.Keeps m i) :
    (m.inGuise v).execute i = Outcome.inGuise v (m.execute i) := by
  cases i with
  | clear =>
      have hwork : wipeAndRefresh (m.inGuise v).display (m.inGuise v).size.positions = _ := h
      rw [execute, execute, clearScreen_eq, clearScreen_eq, hwork]
      exact finish_inGuise v
        { m with display := (wipeAndRefresh m.display m.size.positions).2 } _
  | draw x y n =>
      obtain ⟨hdots, hwork⟩ := h
      have hwork : plotAndRefresh (m.inGuise v).display (m.spriteDots x y n) = _ := hwork
      rw [execute, execute, draw_eq, draw_eq, hdots, hwork]
      exact finish_inGuise v { m with display := _, regs := _ } _
  | shiftRight x y | shiftLeft x y =>
      have hsource : (m.inGuise v).shiftSource x y = m.shiftSource x y := h
      rw [execute, execute, hsource]
      rfl
  | jumpOffset nnn =>
      have htarget : (m.inGuise v).offsetTarget nnn = m.offsetTarget nnn := h
      rw [execute, execute, htarget]
      rfl
  | call nnn =>
      have hpush : (m.inGuise v).stack.push (m.inGuise v).pc = m.stack.push m.pc := rfl
      rw [execute, execute, call, call, hpush]
      cases m.stack.push m.pc <;> rfl
  | ret =>
      have hpop : (m.inGuise v).stack.pop = m.stack.pop := rfl
      rw [execute, execute, ret, ret, hpop]
      cases m.stack.pop <;> rfl
  | skipEqImm | skipNeImm | skipEqReg | skipNeReg =>
      rw [execute, execute]
      exact congrArg done (skipIf_inGuise v m _)
  | skipKey x | skipNotKey x =>
      have hpoll : Display.pollKey (m.inGuise v).display = _ := h
      rw [execute, execute, withKey_eq, withKey_eq, hpoll]
      exact congrArg done
        (skipIf_inGuise v { m with display := (Display.pollKey m.display).2 } _)
  | waitKey x =>
      have hpoll : Display.pollKey (m.inGuise v).display = _ := h
      rw [execute, execute, waitKey_eq, waitKey_eq, hpoll]
      rfl
  | random x nn =>
      obtain ⟨hpeek, hadvance⟩ := h
      have hpeek : (m.inGuise v).random.peek = m.random.peek := hpeek
      have hadvance : (m.inGuise v).random.advance = v.random m.random.advance := hadvance
      rw [execute, execute, hpeek, hadvance]
      rfl
  | loadDelay x =>
      have hdelay : (m.inGuise v).timers.delay = m.timers.delay := h
      rw [execute, execute, hdelay]
      rfl
  | setDelay x | setSound x =>
      exact congrArg (fun timers => done ({ m.inGuise v with timers } : Machine E)) h
  | _ => rfl

/-- A step is kept if its instruction is. -/
theorem step_inGuise {m : Machine D}
    (h : ∀ i, m.instruction? = some i → v.Keeps m.advance i) :
    (m.inGuise v).step = Outcome.inGuise v m.step := by
  cases hi : m.instruction? with
  | none =>
      have hsame : (m.inGuise v).instruction? = none := hi
      rw [step_of_none hi, step_of_none hsame]
      rfl
  | some i =>
      have hsame : (m.inGuise v).instruction? = some i := hi
      rw [step_of_some hi, step_of_some hsame]
      exact execute_inGuise (h i hi)

/-- With the clock, the instruction is executed by the machine that the gate has counted for. -/
theorem stepAt_inGuise (htimers : v.timers = id) {m : Machine D} {now : Nat}
    (h : ∀ i, m.instruction? = some i → v.Keeps (m.passed now) i) :
    (m.inGuise v).stepAt now = Outcome.inGuise v (m.stepAt now) := by
  have hticked := m.tickUntil_like m rfl rfl now
  have hkeeps : ∀ i, (m.tickUntil now).instruction? = some i →
      v.Keeps (m.tickUntil now).advance i := by
    rw [hticked]
    exact h
  rw [stepAt, stepAt, tickUntil_inGuise v htimers]
  exact step_inGuise hkeeps

/-! ### Another display -/

variable {f : D → E}

/-- Every instruction keeps another display that goes along with its calls. -/
theorem keeps_of_displayHom (hf : DisplayHom f) (m : Machine D) (i : Instruction) :
    Guise.Keeps { display := f } m i := by
  cases i with
  | clear => exact hf.pixelHom.wipeAndRefresh_eq hf.refresh _ _
  | draw => exact ⟨rfl, hf.pixelHom.plotAndRefresh_eq hf.refresh _ _⟩
  | skipKey | skipNotKey | waitKey => exact hf.pollKey _
  | shiftRight | shiftLeft | jumpOffset | loadDelay | setDelay | setSound => rfl
  | random => exact ⟨rfl, rfl⟩
  | _ => trivial

/-- A step on another display is the same step. -/
theorem step_onto (hf : DisplayHom f) (m : Machine D) :
    (m.onto f).step = Outcome.onto f m.step :=
  step_inGuise (v := { display := f }) fun i _ => keeps_of_displayHom hf m.advance i

theorem stepAt_onto (hf : DisplayHom f) (m : Machine D) (now : Nat) :
    (m.onto f).stepAt now = Outcome.onto f (m.stepAt now) :=
  stepAt_inGuise (v := { display := f }) rfl fun i _ => keeps_of_displayHom hf (m.passed now) i

end Machine

end Chip8
