import Chip8.Proofs.Display.Adapter
import Chip8.Proofs.Machine.Contract
import Chip8.Proofs.Machine.Overlap

/-!
Drawing and clearing on an adapter that stores another grid than it reports. The machine works on
the grid that was reported when it was built. Where that goes beyond what is stored, the step ends
at the first cell outside: the cells before it were dealt with, those behind it were not, nothing is
refreshed, and the error names the cell. Where it does not, the step asks for its one refresh and
passes on the answer, whatever that is; the cells stay as they were made.

Which cell comes first is settled by the order of the work. `00E0` takes the reported grid in
row-major order (`DisplaySize.Precedes`), so it ends at the first column that is not stored or else
at the first such row. `DXYN` takes the cells of its sprite as they are listed in `visited`.
-/

namespace Chip8.Machine

variable {D : Type}

/-! ### One step -/

section Step

variable [Display D] {m : Machine D}

theorem stepAt_clear (h : m.instruction? = some .clear) (now : Nat) :
    let work := wipeAndRefresh m.display m.size.positions
    let outcome := m.stepAt now
    outcome.1 = work.1.mapError DisplayError.toError ∧ outcome.2.display = work.2 ∧
      outcome.2.reg flag = m.reg flag := by
  intro work outcome
  have hstep : outcome = _ := stepAt_eq_execute h now
  rw [hstep, execute, clearScreen_eq, finish_fst, finish_snd]
  exact ⟨rfl, rfl, rfl⟩

theorem stepAt_draw {x y n : Nibble} (h : m.instruction? = some (.draw x y n)) (now : Nat) :
    let work := plotAndRefresh m.display (m.visited x y n)
    let outcome := m.stepAt now
    outcome.1 = work.1.mapError DisplayError.toError ∧ outcome.2.display = work.2.2 ∧
      outcome.2.reg flag = work.2.1.toUInt8 := by
  intro work outcome
  have hstep : outcome = _ := stepAt_eq_execute h now
  have hwork : work = plotAndRefresh m.display (m.spriteDots x y n) := by
    rw [spriteDots_eq_visited]
  rw [hstep, execute, draw_eq, finish_fst, finish_snd, hwork]
  exact ⟨rfl, rfl, reg_setReg_self _ flag _⟩

/-- What a step asked of its display at an instant. -/
def recordAt (m : Machine D) (now : Nat) : Recorder D :=
  (m.recorded.stepAt now).2.display

theorem onto_inner_recorded_stepAt (m : Machine D) (now : Nat) :
    Outcome.onto Recorder.inner (m.recorded.stepAt now) = m.stepAt now :=
  (stepAt_onto displayHom_inner m.recorded now).symm

theorem recorded_clear (h : m.instruction? = some .clear) (now : Nat) :
    let work := wipeAndRefresh ({ inner := m.display } : Recorder D) m.size.positions
    (m.stepAt now).1 = work.1.mapError DisplayError.toError ∧
      (m.stepAt now).2.display = work.2.inner ∧ m.recordAt now = work.2 := by
  intro work
  obtain ⟨hresult, hdisplay, -⟩ := stepAt_clear (m := m.recorded) h now
  rw [← onto_inner_recorded_stepAt]
  exact ⟨hresult, congrArg Recorder.inner hdisplay, hdisplay⟩

theorem recorded_draw {x y n : Nibble} (h : m.instruction? = some (.draw x y n)) (now : Nat) :
    let work := plotAndRefresh ({ inner := m.display } : Recorder D) (m.visited x y n)
    (m.stepAt now).1 = work.1.mapError DisplayError.toError ∧
      (m.stepAt now).2.display = work.2.2.inner ∧
      (m.stepAt now).2.reg flag = work.2.1.toUInt8 ∧ m.recordAt now = work.2.2 := by
  intro work
  obtain ⟨hresult, hdisplay, hflag⟩ := stepAt_draw (m := m.recorded) h now
  rw [← onto_inner_recorded_stepAt]
  exact ⟨hresult, congrArg Recorder.inner hdisplay, hflag, hdisplay⟩

end Step

/-! ### A run -/

section Run

variable [Attended D] {frame : D → FrameBuffer} {m : Machine D}

/-- A machine with pixels on an adapter that stores a grid of some size. -/
structure Stores (frame : D → FrameBuffer) (stored : DisplaySize) (m : Machine D) : Prop where
  size_eq : (frame m.display).size = stored
  width_pos : 0 < m.size.width
  height_pos : 0 < m.size.height

theorem Stores.step (hframe : KeepsFrame frame) {stored : DisplaySize} (h : Stores frame stored m) :
    Stores frame stored m.step.2 := by
  refine ⟨?_, by rw [size_step]; exact h.width_pos, by rw [size_step]; exact h.height_pos⟩
  rw [← h.size_eq]
  cases hi : m.instruction? with
  | none => rw [step_of_none hi]; rfl
  | some i =>
      rw [step_of_some hi]
      by_cases hdraws : i.draws
      · obtain ⟨_, hwork, -⟩ := works_execute (m := m.advance) h.width_pos h.height_pos hdraws
        exact hframe.size_works hwork
      · rw [display_execute, displayAfter_of_not_draws _ (Bool.not_eq_true _ ▸ hdraws)]
        split_ifs
        · exact (hframe.pollKey _).size_eq
        · rfl

theorem Stores.act (hframe : KeepsFrame frame) {stored : DisplaySize} (h : Stores frame stored m)
    (a : Act) : Stores frame stored (m.act a) := by
  cases a with
  | step now =>
      obtain ⟨gate, timers, hgate⟩ := m.stepAt_eq now
      have hticked : Stores frame stored { m with gate, timers } := { h with }
      show Stores frame stored (m.stepAt now).2
      rw [hgate]
      exact hticked.step hframe
  | tick => exact { h with }
  | hold key => exact { h with size_eq := (hframe.hold key m.display).size_eq.trans h.size_eq }

end Run

/-! ### How the step ends -/

/-- `00E0` stops at a pixel: what precedes it in the reported grid was put out, and no more. -/
structure ClearsUpTo (frame : D → FrameBuffer) (reported : DisplaySize) (stop : Nat × Nat)
    (m : Machine D) (outcome : Outcome D) (record : Recorder D) : Prop where
  error : outcome.1 = .error (.outOfBounds stop.1 stop.2)
  pixels : (frame m.display).PutOut
    (fun p => reported.Contains p.1 p.2 ∧ DisplaySize.Precedes p stop) (frame outcome.2.display)
  refreshes : record.refreshes = []

/-- `00E0` on an adapter, by how the step ended and what was asked in it. -/
structure Clears (frame : D → FrameBuffer) (reported stored : DisplaySize) (m : Machine D)
    (outcome : Outcome D) (record : Recorder D) : Prop where
  flag : outcome.2.reg flag = m.reg flag
  whole : reported.width ≤ stored.width → reported.height ≤ stored.height →
    (frame m.display).PutOut (fun p => reported.Contains p.1 p.2) (frame outcome.2.display) ∧
      ∃ answer, record.refreshes = [.refresh answer] ∧
        outcome.1 = answer.mapError DisplayError.toError
  narrow : stored.width < reported.width →
    ClearsUpTo frame reported (0, stored.width) m outcome record
  low : reported.width ≤ stored.width → stored.height < reported.height →
    ClearsUpTo frame reported (stored.height, 0) m outcome record

/-- `DXYN` on an adapter, by how the step ended and what was asked in it. -/
structure Draws (frame : D → FrameBuffer) (stored : DisplaySize) (m : Machine D) (x y n : Nibble)
    (outcome : Outcome D) (record : Recorder D) : Prop where
  whole : (∀ cell ∈ m.visited x y n, stored.Contains cell.row cell.col) →
    (frame m.display).Toggled (m.visited x y n) (frame outcome.2.display) (outcome.2.reg flag) ∧
      record.asked = (m.visited x y n).map Dot.place ∧
      ∃ answer, record.refreshes = [.refresh answer] ∧
        outcome.1 = answer.mapError DisplayError.toError
  /-- The first cell that is not stored ends the drawing. -/
  cut : ∀ before cell after, m.visited x y n = before ++ cell :: after →
    (∀ earlier ∈ before, stored.Contains earlier.row earlier.col) →
    ¬ stored.Contains cell.row cell.col →
    outcome.1 = .error (.outOfBounds cell.row cell.col) ∧
      (frame m.display).Toggled before (frame outcome.2.display) (outcome.2.reg flag) ∧
      record.asked = before.map Dot.place ++ [cell.place] ∧ record.refreshes = []

namespace Stores

variable [Attended D] {frame : D → FrameBuffer} {stored : DisplaySize} {m : Machine D}

theorem clearsUpTo (hframe : KeepsFrame frame) (h : Stores frame stored m)
    (hi : m.instruction? = some .clear) (now : Nat) {stop : Nat × Nat}
    (hreported : m.size.Contains stop.1 stop.2) (hstop : ¬ stored.Contains stop.1 stop.2)
    (hbefore : ∀ p : Nat × Nat, m.size.Contains p.1 p.2 → DisplaySize.Precedes p stop →
      stored.Contains p.1 p.2) :
    ClearsUpTo frame m.size stop m (m.stepAt now) (m.recordAt now) := by
  obtain ⟨hresult, hdisplay, hrecord⟩ := recorded_clear hi now
  obtain ⟨before, after, hsplit, hmem⟩ := DisplaySize.exists_positions_eq hreported
  rw [← h.size_eq] at hstop hbefore
  have hinside : ∀ p ∈ before, (frame m.display).size.Contains p.1 p.2 := fun p hp =>
    hbefore p ((hmem p).1 hp).1 ((hmem p).1 hp).2
  obtain ⟨herror, hgone, hrefreshes⟩ :=
    hframe.wipeAndRefresh_of_outside hinside hstop hmem after
  rw [← hsplit] at herror hgone hrefreshes
  constructor
  case error => rw [hresult, herror]; rfl
  case pixels => rw [hdisplay]; exact hgone
  case refreshes => rw [hrecord]; exact hrefreshes

theorem clears (hframe : KeepsFrame frame) (h : Stores frame stored m) (hheight : 0 < stored.height)
    (hi : m.instruction? = some .clear) (now : Nat) :
    Clears frame m.size stored m (m.stepAt now) (m.recordAt now) := by
  constructor
  case flag => exact (stepAt_clear hi now).2.2
  case whole =>
    intro hwidth hheight
    obtain ⟨hresult, hdisplay, hrecord⟩ := recorded_clear hi now
    have hinside : ∀ p ∈ m.size.positions, (frame m.display).size.Contains p.1 p.2 := by
      intro p hp
      obtain ⟨hrow, hcol⟩ := DisplaySize.contains_of_mem_positions hp
      rw [h.size_eq]
      exact ⟨by omega, by omega⟩
    obtain ⟨hgone, hrefreshes⟩ := hframe.wipeAndRefresh_of_inside hinside fun p =>
      ⟨DisplaySize.contains_of_mem_positions, DisplaySize.mem_positions⟩
    rw [hdisplay, hrecord]
    exact ⟨hgone, _, hrefreshes, hresult⟩
  case narrow =>
    intro hnarrow
    refine h.clearsUpTo hframe hi now ⟨h.height_pos, hnarrow⟩ (fun hin => Nat.lt_irrefl _ hin.2) ?_
    rintro ⟨row, col⟩ - (hrow | ⟨hrow, hcol⟩)
    · exact absurd hrow (Nat.not_lt_zero _)
    · exact ⟨hrow ▸ hheight, hcol⟩
  case low =>
    intro hwide hlow
    refine h.clearsUpTo hframe hi now ⟨hlow, h.width_pos⟩ (fun hin => Nat.lt_irrefl _ hin.1) ?_
    rintro ⟨row, col⟩ ⟨-, hcol⟩ (hrow | ⟨-, hzero⟩)
    · exact ⟨hrow, Nat.lt_of_lt_of_le hcol hwide⟩
    · exact absurd hzero (Nat.not_lt_zero _)

theorem draws (hframe : KeepsFrame frame) (h : Stores frame stored m) {x y n : Nibble}
    (hi : m.instruction? = some (.draw x y n)) (now : Nat) :
    Draws frame stored m x y n (m.stepAt now) (m.recordAt now) := by
  obtain ⟨hresult, hdisplay, hflag, hrecord⟩ := recorded_draw hi now
  rw [← h.size_eq]
  constructor
  case whole =>
    intro hinside
    obtain ⟨hgrid, hasked, hrefreshes⟩ := hframe.plotAndRefresh_of_inside hinside
    rw [hdisplay, hrecord, hflag]
    exact ⟨hgrid, hasked, _, hrefreshes, hresult⟩
  case cut =>
    intro before cell after hsplit hbefore hcell
    obtain ⟨herror, hgrid, hasked, hrefreshes⟩ :=
      hframe.plotAndRefresh_of_outside hbefore hcell after
    rw [← hsplit] at herror hgrid hasked hrefreshes
    rw [hdisplay, hrecord, hflag, hresult, herror]
    exact ⟨rfl, hgrid, hasked, hrefreshes⟩

end Stores

/-- Drawing and clearing in any run, on any adapter that keeps its pixels in a framebuffer, whatever
the size of that and whatever size the adapter reports. -/
theorem draws_as_far_as_stored {D : Type} [Attended D] {frame : D → FrameBuffer}
    (hframe : KeepsFrame frame) {b : Blueprint} {around : Blueprint.Surroundings} {display : D}
    {built : Machine D} (hbuild : b.build around display = .ok built)
    (hheight : 0 < (frame display).size.height) (acts : List Act) (now : Nat) :
    let reported := Display.size display
    let stored := (frame display).size
    let m := built.play acts
    let outcome := m.stepAt now
    let record := m.recordAt now
    Outcome.onto Recorder.inner (m.recorded.stepAt now) = outcome ∧
      (m.instruction? = some .clear →
        Clears frame reported stored m outcome record ∧ OnlyDraws m now outcome.2) ∧
      ∀ x y n, m.instruction? = some (.draw x y n) →
        Draws frame stored m x y n outcome record ∧ OnlyDraws m now outcome.2 := by
  intro reported stored m outcome record
  obtain ⟨hfits, hbuilt⟩ := Blueprint.build_eq_ok_iff.1 hbuild
  have hsize : m.size = reported := by
    rw [size_play, hbuilt]
    rfl
  have hstores : Stores frame stored m := by
    refine play_induction (fun _ a ih => ih.act hframe a) ?_ acts
    rw [hbuilt]
    exact ⟨rfl, hfits.width_pos, hfits.height_pos⟩
  refine ⟨onto_inner_recorded_stepAt m now, fun hi => ⟨?_, onlyDraws_stepAt hi rfl now⟩,
    fun x y n hi => ⟨hstores.draws hframe hi now, onlyDraws_stepAt hi rfl now⟩⟩
  rw [← hsize]
  exact hstores.clears hframe hheight hi now

/-- Draws a glyph of five rows at the origin, and clears. -/
def drawsAndClears : Blueprint where
  program := [0xA0, 0x50, 0xD0, 0x05, 0x00, 0xE0]

/-- On a bench that reports nine columns and four rows and stores eight and two. The drawing gets
through two rows, the clearing through the columns of the first. -/
theorem draws_as_far_as_stored_bench :
    let bench : Bench := { frame := .new ⟨8, 2⟩, reported := ⟨9, 4⟩ }
    let built := drawsAndClears.machine {} bench ⟨9, 4⟩
    let drawing := built.play [.step 0]
    let clearing := built.play [.step 0, .step 1]
    drawsAndClears.build {} bench = .ok built ∧ drawing.instruction? = some (.draw 0 0 5) ∧
      (drawing.stepAt 1).1 = .error (.outOfBounds 2 0) ∧
      (drawing.stepAt 1).2.display.frame.lit 1 3 = true ∧
      clearing.instruction? = some .clear ∧
      (clearing.stepAt 2).1 = .error (.outOfBounds 0 8) ∧
      (clearing.stepAt 2).2.display.frame.lit 1 3 = true ∧ (clearing.stepAt 2).2.pc = 0x206 := by
  intro bench built drawing clearing
  have hbuild : drawsAndClears.build {} bench = .ok built := rfl
  have hresult := draws_as_far_as_stored Bench.keepsFrame hbuild (by decide)
  let before := (drawing.visited 0 0 5).take 16
  have hevaluated : drawing.instruction? = some (.draw 0 0 5) ∧
      drawing.visited 0 0 5 = before ++ ⟨2, 0, true⟩ :: (drawing.visited 0 0 5).drop 17 ∧
      (∀ dot ∈ before, DisplaySize.Contains ⟨8, 2⟩ dot.row dot.col) ∧
      Dot.hits before 1 3 = 1 ∧ drawing.display.frame.lit 1 3 = false ∧
      clearing.instruction? = some .clear ∧ clearing.display.frame.lit 1 3 = true ∧
      clearing.pc = 0x204 := by
    decide +kernel
  obtain ⟨hdraw, hsplit, hbefore, hhits, hdark, hclear, hlit, hpc⟩ := hevaluated
  obtain ⟨-, -, hdraws⟩ := hresult [.step 0] 1
  obtain ⟨herror, hgrid, -⟩ := (hdraws 0 0 5 hdraw).1.cut _ _ _ hsplit hbefore (by decide)
  obtain ⟨-, hclears, -⟩ := hresult [.step 0, .step 1] 2
  obtain ⟨hcleared, honly⟩ := hclears hclear
  have hcut := hcleared.narrow (by decide)
  refine ⟨hbuild, hdraw, herror, ?_, hclear, hcut.error, ?_, ?_⟩
  · rw [hgrid.lit, hhits, hdark]
    rfl
  · rw [hcut.pixels.others (1, 3) fun hgone => absurd hgone.2 (by decide), hlit]
  · rw [honly.pc, hpc]
    rfl

end Chip8.Machine
