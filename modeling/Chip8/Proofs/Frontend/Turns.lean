import Chip8.Proofs.Frontend.Watched

/-!
A run turn by turn, whatever the front end does. A turn can go in five ways, and each of them says
at once what was asked of the front end, which machine the step left, and whether there is a next
turn (`Turned`). What a whole run asks and which machines it goes through are then lists that grow
by a turn at a time (`events_going`, `stepped_going`), and a fact about a run is an induction on
the number of its turns.

Some facts need no turns at all. What every call to a front end keeps is kept by a run
(`Kept.run`): the front ends that have such a property are a front end of their own, and a run on
them is the same run.
-/

namespace Chip8

/-! ### What every call keeps -/

section Kept

variable {D : Type} [Frontend D]

/-- A property that no call to a front end takes away, other than letting it go. -/
structure Kept (P : D → Prop) : Prop where
  readPixel : ∀ {d} row col, P d → P (Display.readPixel d row col).2
  setPixel : ∀ {d} row col lit, P d → P (Display.setPixel d row col lit).2
  refresh : ∀ {d}, P d → P (Display.refresh d).2
  pollKey : ∀ {d}, P d → P (Display.pollKey d).2
  await : ∀ {d} now, P d → P (Frontend.await now d)
  quitRequested : ∀ {d}, P d → P (Frontend.quitRequested d).2
  present : ∀ {d}, P d → P (Frontend.present d).2
  setTone : ∀ {d} on, P d → P (Frontend.setTone on d).2

variable {P : D → Prop}

/-- The front ends with a property that is kept, as a display. -/
abbrev Kept.display (h : Kept P) : Display { d // P d } where
  size d := Display.size d.1
  readPixel d row col := ((Display.readPixel d.1 row col).1, ⟨_, h.readPixel row col d.2⟩)
  setPixel d row col lit := ((Display.setPixel d.1 row col lit).1, ⟨_, h.setPixel row col lit d.2⟩)
  refresh d := ((Display.refresh d.1).1, ⟨_, h.refresh d.2⟩)
  pollKey d := ((Display.pollKey d.1).1, ⟨_, h.pollKey d.2⟩)

abbrev Kept.frontend (h : Kept P) : Frontend { d // P d } where
  toDisplay := h.display
  await now d := ⟨_, h.await now d.2⟩
  quitRequested d := ((Frontend.quitRequested d.1).1, ⟨_, h.quitRequested d.2⟩)
  present d := ((Frontend.present d.1).1, ⟨_, h.present d.2⟩)
  setTone on d := ((Frontend.setTone on d.1).1, ⟨_, h.setTone on d.2⟩)

theorem Kept.frontendHom (h : Kept P) :
    @FrontendHom { d // P d } D h.frontend _ Subtype.val :=
  letI := h.frontend
  { readPixel := fun _ _ _ => rfl
    setPixel := fun _ _ _ _ => rfl
    refresh := fun _ => rfl
    pollKey := fun _ => rfl
    await := fun _ _ => rfl
    quitRequested := fun _ => rfl
    present := fun _ => rfl
    setTone := fun _ _ => rfl }

theorem Kept.run (h : Kept P) (clock : Nat → Instants) (turns k : Nat) {r : Runner D}
    (hr : P r.machine.display) : P (Runner.run clock turns k r).2.machine.display := by
  let _ := h.frontend
  let begun : Runner { d // P d } := r.onto fun _ => ⟨r.machine.display, hr⟩
  have hrun : Runner.run clock turns k r = _ :=
    Runner.run_onto h.frontendHom clock turns k begun
  rw [hrun]
  exact (Runner.run clock turns k begun).2.machine.display.2

end Kept

namespace Runner

variable {D : Type}

/-! ### One turn -/

/-- A run whose front end is watched, with what was noted down before. -/
def noted (events : List Event) (r : Runner D) : Runner (Watched D) :=
  r.onto fun inner => { inner, events }

/-- The change of the tone that is due, if it was `before` and shall be `on`. -/
def edge (before on : Bool) : List Event :=
  if on = before then [] else [.toned on (.ok ())]

variable [Frontend D]

/-- What a turn asks of the front end. -/
def turnEvents (instants : Instants) (r : Runner D) : List Event :=
  (r.watched.turn instants).2.machine.display.events

/-- The machine that the step of a turn leaves, if the turn gets that far and the step ends
well. -/
def stepped? (instants : Instants) (r : Runner D) : Option (Machine D) :=
  if r.stops instants then none
  else
    match (r.asked instants).stepAt (r.start + instants.stepped) with
    | (.error _, _) => none
    | (.ok (), machine) => some machine

/-- The ways a turn can go on after a step that left machine `m`: what it asks, and how it ends. -/
inductive Sounded (before : Bool) (m : Machine D) :
    List Event → Option Ending × Runner D → Prop
  /-- The tone cannot be changed. -/
  | untoned {reason : String} {r₁ : Runner D} (edge : m.soundActive ≠ before)
      (failed : (Frontend.setTone m.soundActive m.display).1 = .error reason)
      (machine : r₁.machine =
        { m with display := (Frontend.setTone m.soundActive m.display).2 }) :
      Sounded before m [.toned m.soundActive (.error reason)] (some (.lost reason), r₁)
  /-- The grid cannot be drawn. -/
  | unseen {reason : String} {r₁ : Runner D} :
      Sounded before m (edge before m.soundActive ++ [.presented (.error reason)])
        (some (.lost reason), r₁)
  /-- There is a next turn. -/
  | going {pictures : List Event} {r₁ : Runner D}
      (shown : ∀ event ∈ pictures, event = .presented (.ok ())) (tone : r₁.tone = m.soundActive) :
      Sounded before m (edge before m.soundActive ++ pictures) (none, r₁)

/-- The ways a turn can go: what it asks, the machine that its step leaves, and how it ends. -/
inductive Turned (before : Bool) :
    List Event → Option (Machine D) → Option Ending × Runner D → Prop
  /-- The user wants to stop. -/
  | quit {r₁ : Runner D} : Turned before [.asked true] none (some .quit, r₁)
  /-- The step fails. -/
  | halted {e : Error} {r₁ : Runner D} :
      Turned before [.asked false] none (some (.halted e), r₁)
  | stepped {m : Machine D} {events : List Event} {outcome : Option Ending × Runner D}
      (rest : Sounded before m events outcome) :
      Turned before (.asked false :: events) (some m) outcome

/-- What a failure of the front end means for the run. -/
def lost? : Except String Unit → Option Ending
  | .error reason => some (.lost reason)
  | .ok () => none

theorem draw_of_due {shown : Nat} {r : Runner D} (h : ¬ shown < r.nextFrame) :
    r.draw shown = (lost? (Frontend.present r.machine.display).1, { r with
      machine := { r.machine with display := (Frontend.present r.machine.display).2 }
      nextFrame := shown + frameTime }) := by
  rw [draw, if_neg h]
  rcases Frontend.present r.machine.display with ⟨_ | _, d⟩ <;> rfl

/-- The run with the tone that the machine asks for. -/
def toned (r : Runner D) : Runner D :=
  { r with
    machine := { r.machine with
      display := (Frontend.setTone r.machine.soundActive r.machine.display).2 }
    tone := r.machine.soundActive }

theorem sound_of_error {shown : Nat} {r : Runner D} (h : r.machine.soundActive ≠ r.tone)
    {reason : String}
    (hfailed : (Frontend.setTone r.machine.soundActive r.machine.display).1 = .error reason) :
    r.sound shown = (some (.lost reason), r.toned) := by
  rw [sound, toned]
  dsimp only
  rw [if_neg h]
  rcases hcall : Frontend.setTone r.machine.soundActive r.machine.display with ⟨_, d⟩
  rw [hcall] at hfailed
  cases hfailed
  rfl

theorem sound_of_ok {shown : Nat} {r : Runner D} (h : r.machine.soundActive ≠ r.tone)
    (hdone : (Frontend.setTone r.machine.soundActive r.machine.display).1 = .ok ()) :
    r.sound shown = r.toned.draw shown := by
  rw [sound, toned]
  dsimp only
  rw [if_neg h]
  rcases hcall : Frontend.setTone r.machine.soundActive r.machine.display with ⟨_, d⟩
  rw [hcall] at hdone
  cases hdone
  rfl

/-- The grid is drawn, or cannot be, or it is not time to. -/
theorem draw_noted (shown : Nat) (r : Runner D) :
    ∃ pictures, (∀ noted, (r.noted noted).draw shown =
        ((r.draw shown).1, (r.draw shown).2.noted (noted ++ pictures))) ∧
      ((∃ reason, (r.draw shown).1 = some (.lost reason) ∧
          pictures = [.presented (.error reason)]) ∨
        (r.draw shown).1 = none ∧ (r.draw shown).2.tone = r.tone ∧
          ∀ event ∈ pictures, event = .presented (.ok ())) := by
  by_cases hearly : shown < r.nextFrame
  · have hplain : r.draw shown = (none, r) := if_pos hearly
    refine ⟨[], fun noted => ?_, .inr ?_⟩
    · rw [hplain, List.append_nil]
      exact if_pos hearly
    · simp [hplain]
  · refine ⟨[.presented (Frontend.present r.machine.display).1], fun noted => ?_, ?_⟩
    · rw [draw_of_due hearly, draw_of_due (r := r.noted noted) hearly]
      rfl
    · rw [draw_of_due hearly]
      rcases (Frontend.present r.machine.display).1 with reason | _
      · exact .inl ⟨reason, rfl, rfl⟩
      · exact .inr ⟨rfl, rfl, by simp⟩

/-- What is left of a turn when the tone is right. -/
theorem sounded_of_drawn (before : Bool) (m : Machine D) {pictures : List Event} {shown : Nat}
    {r : Runner D} (tone : r.tone = m.soundActive)
    (h : (∃ reason, (r.draw shown).1 = some (.lost reason) ∧
        pictures = [.presented (.error reason)]) ∨
      (r.draw shown).1 = none ∧ (r.draw shown).2.tone = r.tone ∧
        ∀ event ∈ pictures, event = .presented (.ok ())) :
    Sounded before m (edge before m.soundActive ++ pictures) (r.draw shown) := by
  generalize r.draw shown = outcome at h ⊢
  obtain ⟨ending, r₁⟩ := outcome
  rcases h with ⟨reason, hending, rfl⟩ | ⟨hending, htone, hpictures⟩
  · cases hending
    exact .unseen
  · cases hending
    exact .going hpictures (htone.trans tone)

/-- The part of a turn after its step goes one of these ways, and the same way if it is watched. -/
theorem sounded (shown : Nat) (r : Runner D) :
    ∃ events, (∀ noted, (r.noted noted).sound shown =
        ((r.sound shown).1, (r.sound shown).2.noted (noted ++ events))) ∧
      Sounded r.tone r.machine events (r.sound shown) := by
  by_cases hsame : r.machine.soundActive = r.tone
  · -- Nothing changed, and the turn ends with the picture.
    obtain ⟨pictures, hnoted, hways⟩ := draw_noted shown r
    have hplain : r.sound shown = r.draw shown := if_pos hsame
    have hwatched (noted : List Event) :
        (r.noted noted).sound shown = (r.noted noted).draw shown := if_pos hsame
    refine ⟨pictures, fun noted => ?_, ?_⟩
    · rw [hwatched, hplain, hnoted]
    · have hedge : edge r.tone r.machine.soundActive = [] := if_pos hsame
      have hsounded := sounded_of_drawn r.tone r.machine hsame.symm hways
      rw [hplain]
      rwa [hedge] at hsounded
  · rcases hcall : (Frontend.setTone r.machine.soundActive r.machine.display).1 with reason | _
    · refine ⟨[.toned r.machine.soundActive (.error reason)], fun noted => ?_, ?_⟩
      · rw [sound_of_error hsame hcall, sound_of_error (r := r.noted noted) hsame hcall, ← hcall]
        rfl
      · rw [sound_of_error hsame hcall]
        exact .untoned hsame hcall rfl
    · obtain ⟨pictures, hnoted, hways⟩ := draw_noted shown r.toned
      refine ⟨.toned r.machine.soundActive (.ok ()) :: pictures, fun noted => ?_, ?_⟩
      · have htoned : (r.noted noted).toned =
            r.toned.noted (noted ++ [.toned r.machine.soundActive (.ok ())]) := by
          rw [← hcall]
          rfl
        rw [sound_of_ok hsame hcall, sound_of_ok (r := r.noted noted) hsame hcall, htoned, hnoted,
          List.append_assoc, List.singleton_append]
      · have hedge : edge r.tone r.machine.soundActive =
            [.toned r.machine.soundActive (.ok ())] := if_neg hsame
        have hsounded := sounded_of_drawn r.tone r.machine rfl hways
        rw [sound_of_ok hsame hcall]
        rwa [hedge] at hsounded

theorem displayHom_noted (events : List Event) :
    DisplayHom fun inner : D => ({ inner, events } : Watched D) where
  readPixel _ _ _ := rfl
  setPixel _ _ _ _ := rfl
  refresh _ := rfl
  pollKey _ := rfl

section Turn

variable {instants : Instants} {r : Runner D} {m : Machine D}

theorem turn_of_stops (h : r.stops instants) :
    r.turn instants = (some .quit, { r with
      machine := r.asked instants
      log := r.log.push ⟨.info, "termination requested"⟩ }) := by
  rw [turn_eq, if_pos h]

theorem turn_of_error (h : ¬ r.stops instants) {e : Error}
    (hstep : (r.asked instants).stepAt (r.start + instants.stepped) = (.error e, m)) :
    r.turn instants = (some (.halted e), { r with
      machine := m
      log := (r.log ++ (r.asked instants).stepLog).push (haltLine m e) }) := by
  rw [turn_eq, if_neg h, hstep]

theorem turn_of_ok (h : ¬ r.stops instants)
    (hstep : (r.asked instants).stepAt (r.start + instants.stepped) = (.ok (), m)) :
    r.turn instants = sound instants.shown { r with
      machine := m
      log := r.log ++ (r.asked instants).stepLog } := by
  rw [turn_eq, if_neg h, hstep]

/-- The step of a turn asks nothing that is noted down. -/
theorem stepAt_asked_watched (instants : Instants) (r : Runner D) :
    (r.watched.asked instants).stepAt (r.watched.start + instants.stepped) =
      Machine.Outcome.onto (fun inner => { inner, events := [.asked (r.stops instants)] })
        ((r.asked instants).stepAt (r.start + instants.stepped)) :=
  Machine.stepAt_onto (displayHom_noted _) (r.asked instants) _

end Turn

theorem exists_turned (instants : Instants) (r : Runner D) :
    ∃ events, r.watched.turn instants = ((r.turn instants).1, (r.turn instants).2.noted events) ∧
      Turned r.tone events (r.stepped? instants) (r.turn instants) := by
  have hwatched := stepAt_asked_watched instants r
  unfold stepped?
  -- First the question, then the step: the turn is over where one of them ends it.
  by_cases hstops : r.stops instants
  · rw [turn_of_stops hstops, turn_of_stops (r := r.watched) hstops, if_pos hstops]
    refine ⟨[.asked true], ?_, .quit⟩
    rw [← hstops]
    rfl
  · rw [if_neg hstops]
    rw [Bool.eq_false_iff.2 hstops] at hwatched
    rcases hstep : (r.asked instants).stepAt (r.start + instants.stepped) with ⟨e | _, m⟩
    · rw [hstep] at hwatched
      rw [turn_of_error hstops hstep, turn_of_error (r := r.watched) hstops hwatched]
      exact ⟨[.asked false], rfl, .halted⟩
    · rw [hstep] at hwatched
      obtain ⟨events, hnoted, hsounded⟩ := sounded instants.shown
        { r with machine := m, log := r.log ++ (r.asked instants).stepLog }
      rw [turn_of_ok hstops hstep, turn_of_ok (r := r.watched) hstops hwatched]
      exact ⟨.asked false :: events, hnoted [.asked false], .stepped hsounded⟩

/-- A turn goes one of these ways, and the same way if it is watched. -/
theorem turned (instants : Instants) (r : Runner D) :
    r.watched.turn instants =
        ((r.turn instants).1, (r.turn instants).2.noted (r.turnEvents instants)) ∧
      Turned r.tone (r.turnEvents instants) (r.stepped? instants) (r.turn instants) := by
  obtain ⟨events, hwatched, hturned⟩ := exists_turned instants r
  have hevents : r.turnEvents instants = events :=
    congrArg (fun outcome => outcome.2.machine.display.events) hwatched
  rw [hevents]
  exact ⟨hwatched, hturned⟩

/-! ### One turn after the other -/

/-- The clock from the second turn on. -/
def later (clock : Nat → Instants) (k : Nat) : Instants :=
  clock (k + 1)

theorem run_later (clock : Nat → Instants) (turns k : Nat) (r : Runner D) :
    run clock turns (k + 1) r = run (later clock) turns k r := by
  induction turns generalizing k r with
  | zero => rfl
  | succ turns ih =>
      rw [run, run, later]
      rcases r.turn (clock (k + 1)) with ⟨_ | ending, r₁⟩
      · exact ih (k + 1) r₁
      · rfl

theorem frontendHom_noted (before : List Event) :
    FrontendHom fun w : Watched D => { w with events := before ++ w.events } where
  readPixel _ _ _ := rfl
  setPixel _ _ _ _ := rfl
  refresh _ := rfl
  pollKey _ := rfl
  await _ _ := rfl
  quitRequested _ := Prod.ext rfl (congrArg (Watched.mk _) (List.append_assoc ..))
  present _ := Prod.ext rfl (congrArg (Watched.mk _) (List.append_assoc ..))
  setTone _ _ := Prod.ext rfl (congrArg (Watched.mk _) (List.append_assoc ..))

/-- What was noted down before a run stays in front of what is noted down during it. -/
theorem run_noted (clock : Nat → Instants) (turns : Nat) (before : List Event) (r : Runner D) :
    run clock turns 0 (r.noted before) =
      ((run clock turns 0 r).1,
        (run clock turns 0 r).2.noted (before ++ events clock turns r)) := by
  have hnoted : r.noted before =
      r.watched.onto fun w => { w with events := before ++ w.events } := by
    unfold noted watched onto Machine.onto
    simp
  rw [hnoted, run_onto (frontendHom_noted before), run_watched clock turns r]
  rfl

/-- The machines that the steps of a run left, one after the other, of those that ended well. -/
def stepped (clock : Nat → Instants) : (turns : Nat) → Runner D → List (Machine D)
  | 0, _ => []
  | turns + 1, r =>
    (r.stepped? (clock 0)).toList ++
      match r.turn (clock 0) with
      | (some _, _) => []
      | (none, r₁) => stepped (later clock) turns r₁

section

variable {clock : Nat → Instants} {turns : Nat} {r r₁ : Runner D} {ending : Ending}

theorem run_of_ended (h : r.turn (clock 0) = (some ending, r₁)) :
    run clock (turns + 1) 0 r = (some ending, r₁) := by
  rw [run, h]

theorem run_of_going (h : r.turn (clock 0) = (none, r₁)) :
    run clock (turns + 1) 0 r = run (later clock) turns 0 r₁ := by
  rw [run, h]
  exact run_later clock turns 0 r₁

theorem events_of_ended (h : r.turn (clock 0) = (some ending, r₁)) :
    events clock (turns + 1) r = r.turnEvents (clock 0) := by
  obtain ⟨hwatched, -⟩ := turned (clock 0) r
  rw [h] at hwatched
  rw [events, run_of_ended hwatched]
  rfl

theorem events_of_going (h : r.turn (clock 0) = (none, r₁)) :
    events clock (turns + 1) r = r.turnEvents (clock 0) ++ events (later clock) turns r₁ := by
  obtain ⟨hwatched, -⟩ := turned (clock 0) r
  rw [h] at hwatched
  rw [events, run_of_going hwatched, run_noted]
  rfl

end

/-- How a run goes, with what is asked of the front end and the machines that the steps leave. -/
inductive Ran : Runner D → List Event → List (Machine D) → Option Ending × Runner D → Prop
  /-- Nobody looks any further. -/
  | left (r : Runner D) : Ran r [] [] (none, r)
  | ended {r r₁ : Runner D} {events : List Event} {machine? : Option (Machine D)}
      {ending : Ending} (last : Turned r.tone events machine? (some ending, r₁)) :
      Ran r events machine?.toList (some ending, r₁)
  | going {r r₁ : Runner D} {events more : List Event} {machine? : Option (Machine D)}
      {machines : List (Machine D)} {outcome : Option Ending × Runner D}
      (first : Turned r.tone events machine? (none, r₁)) (rest : Ran r₁ more machines outcome) :
      Ran r (events ++ more) (machine?.toList ++ machines) outcome

/-- Every run is turn after turn. -/
theorem ran (clock : Nat → Instants) (turns : Nat) (r : Runner D) :
    Ran r (events clock turns r) (stepped clock turns r) (run clock turns 0 r) := by
  -- The first turn is split off, and the others are a run that begins on a later clock.
  induction turns generalizing clock r with
  | zero => exact .left r
  | succ turns ih =>
      obtain ⟨-, hturned⟩ := turned (clock 0) r
      rcases hturn : r.turn (clock 0) with ⟨_ | ending, r₁⟩
      · rw [hturn] at hturned
        rw [run_of_going hturn, events_of_going hturn, stepped, hturn]
        exact .going hturned (ih (later clock) r₁)
      · rw [hturn] at hturned
        rw [run_of_ended hturn, events_of_ended hturn, stepped, hturn]
        dsimp only
        rw [List.append_nil]
        exact .ended hturned

end Runner

end Chip8
