import Chip8.Proofs.Machine.Contract
import Chip8.Proofs.Terminal.Calls

/-!
What a terminal shows. A picture is drawn only if the grid asks for it, and a pixel that is set does
not: the grid asks at the end of an instruction that draws. That this is enough rests on such an
instruction not failing halfway, which on a grid of the right size it cannot.

So between two pictures a terminal either asks for the next one, or its grid is still the one that
was drawn last (`Fresh`). A machine has no other way to reach the pixels, and what the user does
reaches the keys alone (`Still`).
-/

namespace Chip8

/-! ### The screen -/

namespace Command

def isLine : Command → Bool
  | .line .. => true
  | _ => false

/-- What stands in a line of the screen after a command: what was last written there, if anything
was since the screen was taken over or emptied. -/
def shownIn (row : UInt16) (before : Option (List Char)) : Command → Option (List Char)
  | .line r cells => if r = row then some cells else before
  | .enterScreen | .leaveScreen | .clear => none
  | _ => before

/-- What stands in each line of the screen after some commands. -/
def shown (commands : List Command) (row : UInt16) : Option (List Char) :=
  commands.foldl (shownIn row) none

end Command

namespace Picture

/-- Whether a line of the screen belongs to the picture. The screen counts its lines in sixteen
bits. -/
def Covers (size : DisplaySize) (row : UInt16) : Prop :=
  ∃ k < (size.height + 1) / 2, row = UInt16.ofNat k

variable {fb : FrameBuffer} {row : UInt16}

/-- The picture is one of the pixels and the colours. -/
theorem commands_clearDirty (fb : FrameBuffer) : commands fb.clearDirty = commands fb := by
  have hlit : fb.clearDirty.lit = fb.lit := by
    funext row col
    rw [FrameBuffer.lit_eq, FrameBuffer.lit_eq]
    rfl
  have hline : line fb.clearDirty = line fb := by
    funext k
    rw [line, line, hlit]
    rfl
  rw [commands, commands, lines, lines, hline]
  rfl

theorem covers_iff : Covers fb.size row ↔ ∃ cells, .line row cells ∈ commands fb := by
  have hlength : (lines fb).length = (fb.size.height + 1) / 2 := length_lines fb
  simp only [Covers, commands, ← hlength, List.mem_append, List.mem_map, Prod.exists,
    List.mem_zipIdx_iff_getElem?, List.mem_cons, List.not_mem_nil, reduceCtorEq, or_false,
    false_or, Command.line.injEq]
  constructor
  · rintro ⟨k, hk, rfl⟩
    exact ⟨_, _, k, List.getElem?_eq_getElem hk, rfl, rfl⟩
  · rintro ⟨cells, _, k, hcells, rfl, rfl⟩
    exact ⟨k, (List.getElem?_eq_some_iff.1 hcells).1, rfl⟩

/-- A line of the picture is written anew, whatever stood there before. -/
theorem foldl_shownIn_of_mem {commands : List Command}
    (h : ∃ cells, .line row cells ∈ commands) (before before' : Option (List Char)) :
    commands.foldl (Command.shownIn row) before = commands.foldl (Command.shownIn row) before' := by
  obtain ⟨cells, h⟩ := h
  induction commands generalizing before before' with
  | nil => cases h
  | cons c commands ih =>
      rcases List.mem_cons.1 h with rfl | h
      · simp [Command.shownIn]
      · exact ih _ _ h

/-- A picture leaves the lines below it alone. -/
theorem shownIn_of_mem_commands (h : ¬ Covers fb.size row) {c : Command} (hc : c ∈ commands fb)
    (before : Option (List Char)) : Command.shownIn row before c = before := by
  cases c with
  | line r cells =>
      refine if_neg fun heq => h (covers_iff.2 ⟨cells, ?_⟩)
      rw [← heq]
      exact hc
  | enterScreen | leaveScreen | clear => simp [commands] at hc
  | _ => rfl

theorem foldl_shownIn_of_not_covers (h : ¬ Covers fb.size row) (before : Option (List Char)) :
    (commands fb).foldl (Command.shownIn row) before = before := by
  have hall : ∀ c ∈ commands fb, ∀ before, Command.shownIn row before c = before :=
    fun c hc => shownIn_of_mem_commands h hc
  generalize commands fb = all at hall
  induction all with
  | nil => rfl
  | cons c all ih =>
      rw [List.foldl_cons, hall c List.mem_cons_self]
      exact ih fun c hc => hall c (List.mem_cons_of_mem _ hc)

end Picture

/-- Commands are written after all others, or nothing is. -/
theorem Console.write_cases (commands : List Command) (c : Console) :
    (∃ reason, c.write commands = (.error reason, c)) ∨
      c.write commands = (.ok (), { c with output := c.output ++ commands }) := by
  unfold write
  cases c.fault? with
  | some reason => exact .inl ⟨reason, rfl⟩
  | none => exact .inr rfl

namespace Terminal

/-- The screen shows the grid: the lines written last are those of its picture, and each line of
the screen is what drawing the picture alone leaves there. -/
structure Shows (t : Terminal) : Prop where
  lines : (Picture.commands t.frame).filter Command.isLine <:+
    t.console.output.toList.filter Command.isLine
  screen : Command.shown t.console.output.toList = Command.shown (Picture.commands t.frame)

/-- Nothing on the screen is out of date, unless the grid asks for the next picture. -/
structure Fresh (size : DisplaySize) (t : Terminal) : Prop where
  size_eq : t.frame.size = size
  outside : ∀ row, ¬ Picture.Covers size row → Command.shown t.console.output.toList row = none
  shows : t.frame.dirty = false → t.Shows

/-- Neither the grid nor the screen changes. -/
structure Still (t t' : Terminal) : Prop where
  frame_eq : t'.frame = t.frame
  lines_eq : t'.console.output.toList.filter Command.isLine =
    t.console.output.toList.filter Command.isLine
  shown_eq : Command.shown t'.console.output.toList = Command.shown t.console.output.toList

variable {t t' t₁ : Terminal} {size : DisplaySize} {answer : Except DisplayError Unit}

theorem still_of_output_eq (hframe : t'.frame = t.frame)
    (houtput : t'.console.output = t.console.output) : Still t t' := by
  constructor
  · exact hframe
  · rw [houtput]
  · rw [houtput]

theorem Still.trans (h : Still t t₁) (h' : Still t₁ t') : Still t t' where
  frame_eq := h'.frame_eq.trans h.frame_eq
  lines_eq := h'.lines_eq.trans h.lines_eq
  shown_eq := h'.shown_eq.trans h.shown_eq

theorem Fresh.still (h : Fresh size t) (hstill : Still t t') : Fresh size t' := by
  constructor
  · rw [hstill.frame_eq, h.size_eq]
  · rw [hstill.shown_eq]
    exact h.outside
  · intro hclean
    rw [hstill.frame_eq] at hclean
    obtain ⟨hlines, hscreen⟩ := h.shows hclean
    constructor
    · rw [hstill.frame_eq, hstill.lines_eq]
      exact hlines
    · rw [hstill.frame_eq, hstill.shown_eq]
      exact hscreen

/-! ### What the user does -/

theorem Idle.still (h : Idle t t') : Still t t' :=
  still_of_output_eq h.frame_eq h.output_eq

/-! ### What is written -/

theorem write_cases (t : Terminal) (commands : List Command) :
    (∃ reason, t.write commands = (.error reason, t)) ∨
      t.write commands = (.ok (),
        { t with console := { t.console with output := t.console.output ++ commands } }) := by
  rcases t.console.write_cases commands with ⟨reason, hwrite⟩ | hwrite
  · exact .inl ⟨reason, by rw [write, hwrite]⟩
  · exact .inr (by rw [write, hwrite])

theorem still_setTone (on : Bool) (t : Terminal) : Still t (t.setTone on).2 := by
  unfold setTone
  split_ifs
  · rcases write_cases t [.bell] with ⟨reason, hwrite⟩ | hwrite
    · rw [hwrite]
      exact still_of_output_eq rfl rfl
    · -- The bell is no line, and moves none.
      rw [hwrite]
      exact ⟨rfl, by simp [Command.isLine], by funext row; simp [Command.shown, Command.shownIn]⟩
  · exact still_of_output_eq rfl rfl

theorem new_run (foreground background : Color) (console : Console) :
    (new size foreground background).run console =
      match console.enterRaw.write setUp with
      | (.ok (), console) =>
        ((.ok { frame := .new size foreground background, console }, []), console)
      | (.error reason, console) => ((.error reason, []), console.leaveRaw) := by
  have hwrite : @StateT.run Console Id _ (Console.write setUp) console.enterRaw =
      console.enterRaw.write setUp := rfl
  simp only [new, StateT.run_bind, StateT.run_modify, pure_bind, hwrite]
  rcases console.enterRaw.write setUp with ⟨_ | _, console⟩ <;> rfl

/-- The screen was emptied, and the grid asks for its first picture. -/
theorem fresh_new {foreground background : Color} {console : Console}
    (h : ((new size foreground background).run console).1.1 = .ok t) : Fresh size t := by
  rw [new_run] at h
  rcases console.enterRaw.write_cases setUp with ⟨reason, hwrite⟩ | hwrite
  · rw [hwrite] at h
    cases h
  · rw [hwrite] at h
    cases h
    refine ⟨rfl, fun row _ => ?_, nofun⟩
    rw [Array.toList_appendList, Command.shown, List.foldl_append]
    rfl

/-- Where the picture is drawn, nothing else remains to be seen. -/
theorem shows_of_drawn (h : Fresh size t) :
    Shows { t with
      frame := t.frame.clearDirty
      console := { t.console with output := t.console.output ++ Picture.commands t.frame } } := by
  have hcommands := Picture.commands_clearDirty t.frame
  constructor
  · rw [hcommands, Array.toList_appendList, List.filter_append]
    exact List.suffix_append ..
  · rw [hcommands, Array.toList_appendList]
    funext row
    rw [Command.shown, List.foldl_append]
    by_cases hrow : Picture.Covers t.frame.size row
    · exact Picture.foldl_shownIn_of_mem (Picture.covers_iff.1 hrow) _ _
    · -- Below the picture there is nothing to be drawn over.
      rw [Picture.foldl_shownIn_of_not_covers hrow, Command.shown,
        Picture.foldl_shownIn_of_not_covers hrow]
      rw [h.size_eq] at hrow
      exact h.outside row hrow

theorem Fresh.present (h : Fresh size t) :
    (t.present.1 = .ok () →
      t.present.2.Shows ∧ t.present.2.frame = t.frame.clearDirty) ∧ Fresh size t.present.2 := by
  unfold Terminal.present
  split_ifs with hdirty
  · rcases write_cases t (Picture.commands t.frame) with ⟨reason, hwrite⟩ | hwrite
    · rw [hwrite]
      exact ⟨nofun, h⟩
    · rw [hwrite]
      have hshows := shows_of_drawn h
      refine ⟨fun _ => ⟨hshows, rfl⟩, ⟨h.size_eq, fun row hrow => ?_, fun _ => hshows⟩⟩
      rw [hshows.screen]
      exact Picture.foldl_shownIn_of_not_covers (h.size_eq ▸ hrow) none
  · have hclean : t.frame.dirty = false := Bool.not_eq_true _ ▸ hdirty
    refine ⟨fun _ => ⟨h.shows hclean, ?_⟩, h⟩
    rw [FrameBuffer.clearDirty, ← hclean]

/-! ### Drawing the grid -/

theorem pixelCall_frame (h : PixelCall size t answer t') :
    PixelCall size t.frame answer t'.frame ∧ t'.console = t.console := by
  cases h with
  | read hgrid hcall =>
      cases hcall
      exact ⟨.read hgrid rfl, rfl⟩
  | set hgrid hcall =>
      cases hcall
      exact ⟨.set hgrid rfl, rfl⟩

theorem visits_frame (h : Visits size t answer t') :
    Visits size t.frame answer t'.frame ∧ t'.console = t.console := by
  induction h with
  | nil t => exact ⟨.nil _, rfl⟩
  | refused hcall =>
      obtain ⟨hframe, hconsole⟩ := pixelCall_frame hcall
      exact ⟨.refused hframe, hconsole⟩
  | next hcall _ ih =>
      obtain ⟨hframe, hconsole⟩ := pixelCall_frame hcall
      exact ⟨.next hframe ih.1, ih.2.trans hconsole⟩

/-- Work on a grid of the right size is not refused, so it ends with asking for a picture. -/
theorem Fresh.works (h : Fresh size t) (hwork : Works size t answer t') : Fresh size t' := by
  cases hwork with
  | refused hvisits =>
      -- The pixels before it would be set, and nobody asked to draw them.
      cases (FrameBuffer.visits_ok h.size_eq (visits_frame hvisits).1).1
  | refreshed hvisits hcall =>
      obtain ⟨hframe, hconsole⟩ := visits_frame hvisits
      cases hcall
      constructor
      · exact (FrameBuffer.visits_ok h.size_eq hframe).2
      · show ∀ row, _ → Command.shown (Terminal.console _).output.toList row = none
        rw [hconsole]
        exact h.outside
      · intro hclean
        cases hclean

/-! ### Every run -/

/-- What can happen to a machine on a terminal. -/
inductive Happening
  /-- One instruction, at an instant. -/
  | step (now : Nat)
  /-- A sixtieth of a second that the driver counts. -/
  | tick
  /-- A key is handed to the display. -/
  | key (e : KeyEvent)
  /-- The user types; the display reads it when it is asked for something next. -/
  | typed (bytes : List UInt8)
  /-- It is later. -/
  | await (now : Nat)
  /-- The display is asked whether the user wants to stop. -/
  | asked
  | toned (on : Bool)
  | presented

def happen (m : Machine Terminal) : Happening → Machine Terminal
  | .step now => (m.stepAt now).2
  | .tick => m.tick
  | .key e => { m with display := m.display.handleKey e }
  | .typed bytes =>
    { m with display := { m.display with console := m.display.console.type bytes } }
  | .await now => { m with display := m.display.await now }
  | .asked => { m with display := m.display.quitRequested.2 }
  | .toned on => { m with display := (m.display.setTone on).2 }
  | .presented => { m with display := m.display.present.2 }

theorem fresh_step {m : Machine Terminal} (hwidth : 0 < m.size.width)
    (hheight : 0 < m.size.height) (h : Fresh m.size m.display) : Fresh m.size m.step.2.display := by
  cases hi : m.instruction? with
  | none =>
      rw [Machine.step_of_none hi]
      exact h
  | some i =>
      rw [Machine.step_of_some hi]
      by_cases hdraws : i.draws
      · obtain ⟨answer, hwork, -⟩ := Machine.works_execute (m := m.advance) hwidth hheight hdraws
        exact h.works hwork
      · rw [Machine.display_execute,
          Machine.displayAfter_of_not_draws _ (Bool.not_eq_true _ ▸ hdraws)]
        split_ifs
        · exact h.still (idle_pollKey _).still
        · exact h

/-- A machine on a terminal of the size that it draws for, with nothing out of date. -/
structure Attached (m : Machine Terminal) : Prop where
  width_pos : 0 < m.size.width
  height_pos : 0 < m.size.height
  fresh : Fresh m.size m.display

theorem Attached.still {m : Machine Terminal} (h : Attached m) (hstill : Still m.display t) :
    Attached { m with display := t } :=
  ⟨h.width_pos, h.height_pos, h.fresh.still hstill⟩

theorem Attached.stepAt {m : Machine Terminal} (h : Attached m) (now : Nat) :
    Attached (m.stepAt now).2 := by
  obtain ⟨gate, timers, hgate⟩ := m.stepAt_eq now
  have hsize : (m.stepAt now).2.size = m.size := by
    rw [hgate, Machine.size_step]
  constructor
  · rw [hsize]
    exact h.width_pos
  · rw [hsize]
    exact h.height_pos
  · rw [hsize, hgate]
    exact fresh_step (m := { m with gate, timers }) h.width_pos h.height_pos h.fresh

theorem Attached.happen {m : Machine Terminal} (h : Attached m) (what : Happening) :
    Attached (happen m what) := by
  cases what with
  | step now => exact h.stepAt now
  | tick => exact ⟨h.width_pos, h.height_pos, h.fresh⟩
  | key e => exact h.still (idle_handleKey _ e).still
  | typed | await => exact h.still (still_of_output_eq rfl rfl)
  | asked => exact h.still (idle_readKeys _).still
  | toned on => exact h.still (still_setTone on _)
  | presented => exact ⟨h.width_pos, h.height_pos, h.fresh.present.2⟩

theorem Attached.foldl_happen {m : Machine Terminal} (h : Attached m)
    (happenings : List Happening) : Attached (happenings.foldl Terminal.happen m) := by
  induction happenings generalizing m with
  | nil => exact h
  | cons what happenings ih => exact ih (h.happen what)

/-- Whatever happened since a machine was built on a new terminal, a terminal that is not going to
draw the grid shows it already; and one that was just made to draw shows it in any case. -/
theorem shows_of_not_dirty {b : Blueprint} {around : Blueprint.Surroundings}
    {foreground background : Color} {console : Console} {m : Machine Terminal}
    (hnew : ((new size foreground background).run console).1.1 = .ok t)
    (hbuild : b.build around t = .ok m) (happenings : List Happening) :
    let now := (happenings.foldl happen m).display
    (now.frame.dirty = false → now.Shows) ∧
      (now.present.1 = .ok () →
        now.present.2.Shows ∧ now.present.2.frame = now.frame.clearDirty) := by
  intro now
  obtain ⟨hfits, rfl⟩ := Blueprint.build_eq_ok_iff.1 hbuild
  have hstart : Fresh t.frame.size t := (fresh_new hnew).size_eq ▸ fresh_new hnew
  have hbuilt : Attached (b.machine around t (Display.size t)) :=
    ⟨hfits.width_pos, hfits.height_pos, hstart⟩
  have hfresh := (hbuilt.foldl_happen happenings).fresh
  exact ⟨hfresh.shows, hfresh.present.1⟩

/-- A new terminal of four by three pixels. -/
def small : Terminal where
  frame := .new ⟨4, 3⟩
  console := (Console.write setUp (Console.enterRaw {})).2

/-- The digit 0 is drawn over a blank picture, and the bell rings in between. -/
theorem shows_of_not_dirty_small :
    let m := Machine.drawsZero.machine {} small ⟨4, 3⟩
    let drawn := ([.presented, .step 0, .step 1, .toned true].foldl happen m).display
    let now := ([.presented, .step 0, .step 1, .toned true, .presented].foldl happen m).display
    drawn.frame.dirty ∧ ¬ drawn.Shows ∧ now.frame.dirty = false ∧ now.Shows ∧
      Command.shown now.console.output.toList 0 = some ['█', '▀', '▀', '█'] := by
  intro m drawn now
  have hnew : ((new ⟨4, 3⟩ .white .black).run {}).1.1 = .ok small := rfl
  have hbuild : Machine.drawsZero.build {} small = .ok m := rfl
  have hevaluated : (drawn.frame.dirty ∧ Command.shown drawn.console.output.toList 0 ≠
      Command.shown (Picture.commands drawn.frame) 0) ∧ now.frame.dirty = false ∧
      Command.shown now.console.output.toList 0 = some ['█', '▀', '▀', '█'] := by
    decide +kernel
  obtain ⟨⟨hdirty, hold⟩, hclean, hzero⟩ := hevaluated
  exact ⟨hdirty, fun h => hold (congrFun h.screen 0), hclean,
    (shows_of_not_dirty hnew hbuild _).1 hclean, hzero⟩

end Terminal

end Chip8
