import Chip8.Proofs.Frontend.Turns
import Chip8.Terminal.Basic

/-!
What the calls of a machine and of the loop leave alone in a terminal. Reading keys is the business
of its input, and leaves the grid and the screen as they are (`Idle`). Setting pixels concerns the
grid, but writes nothing either (`Silent`): only pictures and tones write, and nothing but letting
the terminal go changes the mode. So what is to be found in the output after a run was put there by
pictures and tones (`kept_of_silent`).
-/

namespace Chip8

/-- Reading keys concerns what was typed and nothing else. -/
theorem Console.readKeys_eq (c : Console) :
    ∃ typed input begun waiting,
      c.readKeys.2 = { c with typed, input, begun, waiting } := by
  unfold Console.readKeys
  split
  · exact ⟨_, _, _, _, rfl⟩
  · unfold Console.readEvents
    dsimp only
    split <;> exact ⟨_, _, _, _, rfl⟩

namespace Terminal

/-- The warnings among what a terminal logged. -/
def warnings (t : Terminal) : List LogLine :=
  t.log.toList.filter (·.level = .warn)

/-- Nothing is written, the mode stays, and there is nothing to warn of. -/
structure Silent (t t' : Terminal) : Prop where
  output_eq : t'.console.output = t.console.output
  raw_eq : t'.console.raw = t.console.raw
  found_eq : t'.console.found = t.console.found
  active_eq : t'.active = t.active
  warnings_eq : t'.warnings = t.warnings

/-- The grid stays as well. -/
structure Idle (t t' : Terminal) : Prop extends Silent t t' where
  frame_eq : t'.frame = t.frame

variable {t t' t₁ : Terminal}

theorem Idle.trans (h : Idle t t₁) (h' : Idle t₁ t') : Idle t t' where
  output_eq := h'.output_eq.trans h.output_eq
  raw_eq := h'.raw_eq.trans h.raw_eq
  found_eq := h'.found_eq.trans h.found_eq
  active_eq := h'.active_eq.trans h.active_eq
  warnings_eq := h'.warnings_eq.trans h.warnings_eq
  frame_eq := h'.frame_eq.trans h.frame_eq

theorem idle_handleKey (t : Terminal) (e : KeyEvent) : Idle t (t.handleKey e) := by
  unfold handleKey
  split_ifs
  · exact ⟨⟨rfl, rfl, rfl, rfl, rfl⟩, rfl⟩
  · repeat' split
    -- A key that stands for nothing is logged, but not as a warning.
    all_goals first
      | exact ⟨⟨rfl, rfl, rfl, rfl, rfl⟩, rfl⟩
      | exact ⟨⟨rfl, rfl, rfl, rfl, by simp [warnings]⟩, rfl⟩

theorem idle_foldl_handleKey (t : Terminal) (events : List KeyEvent) :
    Idle t (events.foldl handleKey t) := by
  induction events generalizing t with
  | nil => exact ⟨⟨rfl, rfl, rfl, rfl, rfl⟩, rfl⟩
  | cons e events ih => exact (idle_handleKey t e).trans (ih _)

theorem idle_readKeys (t : Terminal) : Idle t t.readKeys := by
  obtain ⟨typed, input, begun, waiting, hread⟩ := t.console.readKeys_eq
  have hconsole : Idle t { t with console := t.console.readKeys.2 } := by
    rw [hread]
    exact ⟨⟨rfl, rfl, rfl, rfl, rfl⟩, rfl⟩
  exact hconsole.trans (idle_foldl_handleKey _ _)

theorem idle_pollKey (t : Terminal) : Idle t t.pollKey.2 := by
  refine (idle_readKeys t).trans ?_
  show Idle t.readKeys t.readKeys.heldKey.2
  unfold heldKey
  repeat' split
  all_goals exact ⟨⟨rfl, rfl, rfl, rfl, rfl⟩, rfl⟩

/-- What a run keeps: it has to get past pictures and tones, and to hold of every terminal that
wrote nothing since. -/
theorem kept_of_silent {P : Terminal → Prop} (silent : ∀ {t t'}, Silent t t' → P t → P t')
    (present : ∀ {t : Terminal}, P t → P t.present.2)
    (setTone : ∀ {t : Terminal} on, P t → P (t.setTone on).2) : Kept P where
  readPixel _ _ h := h
  setPixel _ _ _ := silent ⟨rfl, rfl, rfl, rfl, rfl⟩
  refresh := silent ⟨rfl, rfl, rfl, rfl, rfl⟩
  pollKey := silent (idle_pollKey _).toSilent
  await _ := silent ⟨rfl, rfl, rfl, rfl, rfl⟩
  quitRequested := silent (idle_readKeys _).toSilent
  present := present
  setTone := setTone

end Terminal

end Chip8
