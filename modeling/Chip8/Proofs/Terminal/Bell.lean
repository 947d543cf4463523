import Chip8.Proofs.Terminal.Shown

/-!
How often the bell is rung. The bell is a character, so what counts is the text that reaches the
terminal: a picture is made of escape sequences, decimal numbers and half blocks, and none of them
has that character in it. What is left are the tones.
-/

namespace Chip8

namespace Command

/-- How many bell characters the text of some commands has. -/
def bells (commands : List Command) : Nat :=
  (textOf commands).toList.count '\x07'

theorem bells_cons (c : Command) (commands : List Command) :
    bells (c :: commands) = c.text.toList.count '\x07' + bells commands := by
  simp [bells, textOf, String.toList_join]

theorem bells_append (commands more : List Command) :
    bells (commands ++ more) = bells commands + bells more := by
  simp [bells, textOf, String.toList_join]

/-- A number is written in digits. -/
theorem bell_not_mem_toString (n : Nat) : '\x07' ∉ (toString n).toList := by
  intro hmem
  have hdigits : '\x07' ∈ Nat.toDigits 10 n := by
    rwa [← Nat.toList_repr]
  have hdigit := Nat.isDigit_of_mem_toDigits (by decide) (by decide) hdigits
  exact absurd hdigit (by decide)

theorem bell_not_mem_append {s s' : String} (h : '\x07' ∉ s.toList) (h' : '\x07' ∉ s'.toList) :
    '\x07' ∉ (s ++ s').toList := by
  rw [String.toList_append, List.mem_append]
  exact fun hmem => hmem.elim h h'

theorem bell_not_mem_sequence {body : String} (h : '\x07' ∉ body.toList) :
    '\x07' ∉ (sequence body).toList :=
  bell_not_mem_append (by decide) h

theorem bell_not_mem_parts (c : Color) : '\x07' ∉ (parts c).toList := by
  have hmark : '\x07' ∉ (toString ";").toList := by decide
  have hred := bell_not_mem_append (bell_not_mem_toString c.r.toNat) hmark
  have hgreen := bell_not_mem_append (bell_not_mem_toString c.g.toNat) hmark
  have hboth := bell_not_mem_append hred hgreen
  rw [← String.append_assoc] at hboth
  exact bell_not_mem_append hboth (bell_not_mem_toString c.b.toNat)

theorem bell_not_mem_paint {mode : String} (h : '\x07' ∉ mode.toList) (c : Color) :
    '\x07' ∉ (sequence (mode ++ parts c ++ "m")).toList :=
  bell_not_mem_sequence
    (bell_not_mem_append (bell_not_mem_append h (bell_not_mem_parts c)) (by decide))

end Command

theorem Picture.bell_not_mem_line (fb : FrameBuffer) (k : Nat) : '\x07' ∉ line fb k := by
  intro hmem
  obtain ⟨col, -, hcell⟩ := List.mem_map.1 hmem
  revert hcell
  cases fb.lit (2 * k) col <;> cases fb.lit (2 * k + 1) col <;> decide

/-- A picture is silent. -/
theorem Picture.bells_commands (fb : FrameBuffer) : Command.bells (commands fb) = 0 := by
  have hsilent : ∀ c ∈ commands fb, '\x07' ∉ c.text.toList := by
    intro c hc
    simp only [commands, List.mem_append, List.mem_map, List.mem_cons, List.not_mem_nil,
      or_false] at hc
    rcases hc with ((rfl | rfl) | ⟨⟨cells, k⟩, hcells, rfl⟩) | rfl
    · exact Command.bell_not_mem_paint (by decide) _
    · exact Command.bell_not_mem_paint (by decide) _
    · -- The lines are among those of the grid, whose cells are half blocks.
      have hline : cells ∈ lines fb := List.fst_mem_of_mem_zipIdx hcells
      obtain ⟨row, -, rfl⟩ := List.mem_map.1 hline
      have hcells : '\x07' ∉ (String.ofList (line fb row)).toList := by
        rw [String.toList_ofList]
        exact bell_not_mem_line fb row
      have hfirst : '\x07' ∉ (toString ";1H").toList := by decide
      have hplace := Command.bell_not_mem_append
        (Command.bell_not_mem_toString ((UInt16.ofNat k).toNat + 1)) hfirst
      exact Command.bell_not_mem_sequence (Command.bell_not_mem_append hplace hcells)
    · decide
  -- So there is nothing to count, command by command.
  generalize commands fb = all at hsilent
  induction all with
  | nil => rfl
  | cons c all ih =>
      rw [Command.bells_cons, ih fun c hc => hsilent c (List.mem_cons_of_mem _ hc),
        List.count_eq_zero.2 (hsilent c List.mem_cons_self)]

/-- Whether a call rings the bell. -/
def Event.rings : Event → Bool
  | toned true (.ok ()) => true
  | _ => false

namespace Terminal

variable {t t' : Terminal}

/-- How often the bell was rung. -/
def bells (t : Terminal) : Nat :=
  Command.bells t.console.output.toList

theorem Silent.bells_eq (h : Silent t t') : t'.bells = t.bells := by
  rw [bells, bells, h.output_eq]

theorem bells_present (t : Terminal) : t.present.2.bells = t.bells := by
  unfold present
  split_ifs
  · rcases write_cases t (Picture.commands t.frame) with ⟨reason, hwrite⟩ | hwrite
    · rw [hwrite]
    · rw [hwrite]
      simp [bells, Command.bells_append, Picture.bells_commands]
  · rfl

theorem bells_setTone (on : Bool) (t : Terminal) :
    (t.setTone on).2.bells =
      t.bells + if (Event.toned on (t.setTone on).1).rings then 1 else 0 := by
  cases on with
  | false => rfl
  | true =>
      have hcall : t.setTone true = t.write [.bell] := rfl
      rcases write_cases t [.bell] with ⟨reason, hwrite⟩ | hwrite
      · rw [hcall, hwrite]
        rfl
      · have hbell : Command.bells [.bell] = 1 := by decide
        rw [hcall, hwrite]
        simp [bells, Command.bells_append, hbell, Event.rings]

/-- The bell is rung by the calls for a tone, and by no others. -/
theorem kept_bells (before : Nat) :
    Kept fun w : Watched Terminal => w.inner.bells = before + w.events.countP Event.rings where
  readPixel _ _ h := h
  setPixel _ _ _ h := h
  refresh h := h
  pollKey h := (idle_pollKey _).bells_eq.trans h
  await _ h := h
  quitRequested {w} h := by
    have hidle := (idle_readKeys w.inner).bells_eq.trans h
    show w.inner.readKeys.bells = _ + (w.events ++ [Event.asked _]).countP _
    rw [List.countP_append, hidle]
    rfl
  present {w} h := by
    show w.inner.present.2.bells = _ + (w.events ++ [Event.presented _]).countP _
    rw [List.countP_append, bells_present, h]
    rfl
  setTone {w} on h := by
    show (w.inner.setTone on).2.bells = _ + (w.events ++ [Event.toned on _]).countP _
    rw [List.countP_append, bells_setTone, h, Nat.add_assoc, List.countP_singleton]
    rfl

theorem bells_run (clock : Nat → Instants) (turns : Nat) (r : Runner Terminal) :
    (r.run clock turns 0).2.machine.display.bells =
      r.machine.display.bells + (r.events clock turns).countP Event.rings := by
  rw [Runner.run_watched]
  exact (kept_bells r.machine.display.bells).run clock turns 0 (Nat.add_zero _).symm

end Terminal

end Chip8
