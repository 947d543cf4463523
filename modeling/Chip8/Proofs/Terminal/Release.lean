import Chip8.Proofs.Frontend.Tones
import Chip8.Session

/-!
Letting a display go. A launch does it once, when the run is over and nothing is going to be asked
of the display any more, whatever ended the run; a display around which no machine could be built
is handed back as it was.

A terminal has an owner who lets it go as well, and it knows whether that was done. So there is one
attempt to give the screen back, and after it the mode is left: during a run the terminal is held
(`Held`), and the first time that it is let go restores it for good (`Restored`).
-/

namespace Chip8

namespace Runner

variable {D : Type} [Frontend D]

/-- The run of a machine that was built. -/
def begun (b : Blueprint) (around : Blueprint.Surroundings) (m : Machine D) : Runner D :=
  { machine := m, start := around.now, log := (b.log m.size).toArray }

variable {b : Blueprint} {around : Blueprint.Surroundings} {d : D}

theorem launch_of_error {e : Error} (h : b.build around d = .error e) (clock : Nat → Instants)
    (turns : Nat) : launch b around clock turns d = (some (.unbuilt e), d, #[]) := by
  rw [launch, h]

theorem launch_of_ok {m : Machine D} (h : b.build around d = .ok m) (clock : Nat → Instants)
    (turns : Nat) :
    launch b around clock turns d =
      ((run clock turns 0 (begun b around m)).1,
        Display.terminate (run clock turns 0 (begun b around m)).2.machine.display,
        (run clock turns 0 (begun b around m)).2.log) := by
  rw [launch, h]
  rfl

end Runner

/-- Leaving the mode writes nothing, and goes back to the one that was found. -/
theorem Console.leaveRaw_cases (c : Console) :
    c.leaveRaw.output = c.output ∧ c.leaveRaw.found = none ∧
      ∀ raw, c.found = some raw → c.leaveRaw.raw = raw := by
  unfold leaveRaw
  split
  · next hfound => exact ⟨rfl, hfound, by simp [hfound]⟩
  · next raw hfound => exact ⟨rfl, rfl, fun raw' h => Option.some.inj (hfound.symm.trans h)⟩

namespace Terminal

variable {t t' t₁ : Terminal}

/-- How often it was attempted to give the screen back: the attempts that were written, and the
warnings about those that could not be. -/
def restores (t : Terminal) : Nat :=
  t.console.output.toList.count .leaveScreen + t.warnings.length

/-- From one terminal to a later one, which is still to be let go. -/
structure Held (t t' : Terminal) : Prop where
  active : t'.active = true
  found_eq : t'.console.found = t.console.found
  raw_eq : t'.console.raw = t.console.raw
  restores_eq : t'.restores = t.restores

theorem Held.refl (h : t.active = true) : Held t t :=
  ⟨h, rfl, rfl, rfl⟩

theorem Held.silent (h : Held t t₁) (hsilent : Silent t₁ t') : Held t t' where
  active := hsilent.active_eq.trans h.active
  found_eq := hsilent.found_eq.trans h.found_eq
  raw_eq := hsilent.raw_eq.trans h.raw_eq
  restores_eq := by
    rw [← h.restores_eq, restores, restores, hsilent.output_eq, hsilent.warnings_eq]

theorem Held.written (h : Held t t₁) {commands : List Command}
    (hcommands : .leaveScreen ∉ commands) :
    Held t { t₁ with console := { t₁.console with output := t₁.console.output ++ commands } } where
  active := h.active
  found_eq := h.found_eq
  raw_eq := h.raw_eq
  restores_eq := by
    rw [← h.restores_eq]
    simp [restores, warnings, List.count_eq_zero.2 hcommands]

theorem leaveScreen_not_mem_commands (fb : FrameBuffer) :
    .leaveScreen ∉ Picture.commands fb := by
  simp [Picture.commands]

theorem Held.present (h : Held t t₁) : Held t t₁.present.2 := by
  unfold Terminal.present
  split_ifs
  · have hwritten := h.written (leaveScreen_not_mem_commands t₁.frame)
    rcases write_cases t₁ (Picture.commands t₁.frame) with ⟨reason, hwrite⟩ | hwrite
    · rw [hwrite]
      exact h
    · rw [hwrite]
      exact hwritten.silent ⟨rfl, rfl, rfl, rfl, rfl⟩
  · exact h

theorem Held.setTone (h : Held t t₁) (on : Bool) : Held t (t₁.setTone on).2 := by
  unfold Terminal.setTone
  split_ifs
  · rcases write_cases t₁ [.bell] with ⟨reason, hwrite⟩ | hwrite
    · rw [hwrite]
      exact h
    · rw [hwrite]
      exact h.written (by decide)
  · exact h

/-- A run holds on to its terminal. -/
theorem kept_held (t : Terminal) : Kept (Held t) :=
  kept_of_silent (fun hsilent h => h.silent hsilent) Held.present fun on h => h.setTone on

/-- From a terminal to the one that is left when it was let go. -/
structure Restored (t t' : Terminal) : Prop where
  /-- First the screen is given back, or at least that is attempted, and then the mode is left. -/
  console_eq : t'.console = (t.console.write restore).2.leaveRaw
  mode : ∀ raw, t.console.found = some raw → t'.console.raw = raw
  found_eq : t'.console.found = none
  restores_eq : t'.restores = t.restores + 1
  active : t'.active = false

theorem restored_terminate (h : t.active = true) : Restored t t.terminate := by
  have hwritten : ({ t with active := false } : Terminal).write restore =
      ((t.console.write restore).1,
        { t with active := false, console := (t.console.write restore).2 }) := rfl
  obtain ⟨houtput, hfound, hmode⟩ := (t.console.write restore).2.leaveRaw_cases
  unfold terminate
  rw [if_pos h, hwritten]
  -- Either the commands are written, or a warning is logged; the mode is left in any case.
  rcases t.console.write_cases restore with ⟨reason, hwrite⟩ | hwrite
  · rw [hwrite] at houtput hfound hmode ⊢
    refine ⟨by rw [hwrite], hmode, hfound, ?_, rfl⟩
    simp only [restores, warnings]
    rw [houtput]
    simp [Nat.add_assoc]
  · have hrestore : restore.count .leaveScreen = 1 := by decide
    rw [hwrite] at houtput hfound hmode ⊢
    refine ⟨by rw [hwrite], hmode, hfound, ?_, rfl⟩
    simp only [restores, warnings]
    rw [houtput]
    simp [hrestore]
    omega

/-- Once is enough. -/
theorem iterate_terminate (n : Nat) (t : Terminal) : terminate^[n + 1] t = t.terminate := by
  induction n with
  | zero => rfl
  | succ n ih => rw [Function.iterate_succ_apply', ih, terminate_terminate]

variable {size : DisplaySize} {foreground background : Color} {console : Console}

/-- A new terminal is to be let go, and knows the mode to go back to. -/
theorem active_new (h : ((new size foreground background).run console).1.1 = .ok t) :
    t.active = true ∧ t.console.found = some (console.found.getD console.raw) := by
  have hraw : console.enterRaw.found = some (console.found.getD console.raw) := by
    unfold Console.enterRaw
    split
    · next raw hfound => rw [hfound, Option.getD_some]
    · next hfound =>
        rw [hfound]
        rfl
  rw [new_run] at h
  rcases console.enterRaw.write_cases setUp with ⟨reason, hwrite⟩ | hwrite
  · rw [hwrite] at h
    cases h
  · rw [hwrite] at h
    cases h
    exact ⟨rfl, hraw⟩

open Runner in
/-- The terminal of a launch is held until the run is over, and then restored, however often it is
let go besides. -/
theorem restored_launch (h : t.active = true) (b : Blueprint) (around : Blueprint.Surroundings)
    (clock : Nat → Instants) (turns : Nat) :
    ∃ left, Held t left ∧ (∀ e, b.build around t = .error e → left = t) ∧
      (∀ m, b.build around t = .ok m →
        left = (run clock turns 0 (begun b around m)).2.machine.display) ∧
      ∀ n, Restored left (terminate^[n + 1] (launch b around clock turns t).2.1) := by
  -- Without a machine nobody has let the terminal go yet; with one, the launch did so already.
  rcases hbuild : b.build around t with e | m
  · refine ⟨t, .refl h, fun _ _ => rfl, fun _ => nofun, fun n => ?_⟩
    rw [launch_of_error hbuild, iterate_terminate]
    exact restored_terminate h
  · have hdisplay : m.display = t := by
      rw [(Blueprint.build_eq_ok_iff.1 hbuild).2]
      rfl
    have hstart : Held t (begun b around m).machine.display := by
      rw [begun, hdisplay]
      exact .refl h
    have hheld := (kept_held t).run clock turns 0 hstart
    refine ⟨_, hheld, fun _ => nofun, ?_, fun n => ?_⟩
    · rintro _ ⟨⟩
      rfl
    · rw [launch_of_ok hbuild, iterate_terminate]
      show Restored _ (terminate (terminate _))
      rw [terminate_terminate]
      exact restored_terminate hheld.active

end Terminal

/-- When a plan was played its terminal was restored, once. -/
theorem Plan.restored_play {p : Plan} {console : Console} {t : Terminal}
    (h : (p.terminal.run console).1.1 = .ok t) (around : Blueprint.Surroundings) (turns : Nat) :
    ∃ left last, t.Held left ∧ left.Restored last ∧
      (p.play around turns console).console = last.console := by
  obtain ⟨hactive, -⟩ := Terminal.active_new h
  obtain ⟨left, hheld, -, -, hrestored⟩ :=
    Terminal.restored_launch hactive p.blueprint around p.clock turns
  refine ⟨left, _, hheld, hrestored 0, ?_⟩
  rw [play]
  rcases hnew : p.terminal.run console with ⟨⟨reason | _, log⟩, rest⟩
  · rw [hnew] at h
    cases h
  · rw [hnew] at h
    cases h
    rfl

namespace Runner

end Runner

end Chip8
