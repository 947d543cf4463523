import Chip8.Proofs.Display.Toggle
import Chip8.Proofs.Terminal.Shown

/-!
A picture is as good as its grid. Two rows of pixels make a line of characters, and a grid with an
odd number of rows has half a line left over, which is filled up with nothing. What is written is
text, with the numbers of the lines in it; but these are the same for all grids of one size, so
where two texts agree, so do the characters at each place, and with them the pixels.
-/

namespace Chip8

/-- Blocks of the same lengths side by side can be told apart. -/
theorem eq_of_flatMap_eq {α β : Type} {l : List α} {f g : α → List β}
    (hlength : ∀ a ∈ l, (f a).length = (g a).length) (h : l.flatMap f = l.flatMap g) :
    ∀ a ∈ l, f a = g a := by
  induction l with
  | nil => exact List.forall_mem_nil _
  | cons a l ih =>
      obtain ⟨hfirst, hrest⟩ := List.forall_mem_cons.1 hlength
      rw [List.flatMap_cons, List.flatMap_cons] at h
      obtain ⟨hhead, htail⟩ := List.append_inj h hfirst
      exact List.forall_mem_cons.2 ⟨hhead, ih hrest htail⟩

namespace Command

theorem toList_textOf (commands : List Command) :
    (textOf commands).toList = commands.flatMap fun c => c.text.toList := by
  rw [textOf, String.toList_join, List.flatMap_map]

/-- In a line the characters stand behind its number. -/
theorem toList_text_line (row : UInt16) (cells : List Char) :
    (text (.line row cells)).toList = (sequence s!"{row.toNat + 1};1H").toList ++ cells := by
  simp [text, sequence]

end Command

namespace Picture

open Command (textOf)

variable {fb fb' : FrameBuffer}

/-! ### The lines of a picture -/

theorem zipIdx_lines (fb : FrameBuffer) :
    (lines fb).zipIdx = (List.range ((fb.height + 1) / 2)).map fun k => (line fb k, k) := by
  refine List.ext_getElem (by simp) fun k hk hk' => ?_
  simp [lines]

theorem commands_eq (fb : FrameBuffer) :
    commands fb = .foreground fb.foreground :: .background fb.background ::
      (((List.range ((fb.height + 1) / 2)).map fun k => .line (UInt16.ofNat k) (line fb k)) ++
        [.resetColors]) := by
  rw [commands, zipIdx_lines, List.map_map]
  rfl

theorem filter_isLine_commands (fb : FrameBuffer) :
    (commands fb).filter Command.isLine =
      (List.range ((fb.height + 1) / 2)).map fun k => .line (UInt16.ofNat k) (line fb k) := by
  rw [commands_eq]
  show List.filter _ (_ ++ _) = _
  rw [List.filter_append, List.filter_eq_self.2 fun c hc => ?_]
  · exact List.append_nil _
  · obtain ⟨k, -, rfl⟩ := List.mem_map.1 hc
    rfl

theorem getElem?_line (fb : FrameBuffer) (k : Nat) {col : Nat} (h : col < fb.width) :
    (line fb k)[col]? = some (cell (fb.lit (2 * k) col) (fb.lit (2 * k + 1) col)) := by
  simp [line, h]

/-- What is written in row `row` of the terminal shows the rows `2 * k` and `2 * k + 1` of the
grid. -/
structure Halves (fb : FrameBuffer) (k : Nat) (row : UInt16) (cells : List Char) : Prop where
  row_eq : row.toNat = k
  length_eq : cells.length = fb.width
  pixels_eq : ∀ col < fb.width,
    cells[col]?.map pixels = some (fb.lit (2 * k) col, fb.lit (2 * k + 1) col)
  /-- The row below the last one is dark. -/
  unlit : 2 * k + 1 = fb.height → ∀ col, fb.lit (2 * k + 1) col = false

theorem halves_line {k : Nat} (hk : k ≤ 65535) : Halves fb k (UInt16.ofNat k) (line fb k) where
  row_eq := by
    rw [UInt16.toNat_ofNat']
    exact Nat.mod_eq_of_lt (Nat.lt_succ_of_le hk)
  length_eq := length_line fb k
  pixels_eq col hcol := by
    rw [getElem?_line fb k hcol, Option.map_some, pixels_cell]
  unlit hlast col := by
    refine FrameBuffer.lit_of_not_contains fun hgrid => ?_
    have hlt : 2 * k + 1 < fb.height := hgrid.1
    omega

/-! ### Pictures of grids of one size -/

theorem lit_eq_of_line_eq (hsize : fb.size = fb'.size)
    (h : ∀ k < (fb.height + 1) / 2, line fb k = line fb' k) (row col : Nat) :
    fb.lit row col = fb'.lit row col := by
  by_cases hgrid : fb.size.Contains row col
  · obtain ⟨hrow, hcol⟩ := hgrid
    have hcol' : col < fb'.width := by
      rw [FrameBuffer.width, ← hsize]
      exact hcol
    have hrow : row < fb.height := hrow
    have hcells := congrArg (fun cells => cells[col]?.map pixels) (h (row / 2) (by omega))
    rw [getElem?_line fb _ hcol, getElem?_line fb' _ hcol', Option.map_some, Option.map_some,
      pixels_cell, pixels_cell] at hcells
    obtain ⟨htop, hbottom⟩ := Prod.mk.inj (Option.some.inj hcells)
    rcases Nat.mod_two_eq_zero_or_one row with heven | hodd
    · have hhalf : 2 * (row / 2) = row := by omega
      rwa [hhalf] at htop
    · have hhalf : 2 * (row / 2) + 1 = row := by omega
      rwa [hhalf] at hbottom
  · have hgrid' : ¬ fb'.size.Contains row col := by
      rw [← hsize]
      exact hgrid
    rw [FrameBuffer.lit_of_not_contains hgrid, FrameBuffer.lit_of_not_contains hgrid']

/-- Only the characters can differ between two texts, and they stand at the same places. -/
theorem line_eq_of_textOf_eq (hsize : fb.size = fb'.size)
    (hforeground : fb.foreground = fb'.foreground) (hbackground : fb.background = fb'.background)
    (h : textOf (commands fb) = textOf (commands fb')) :
    ∀ k < (fb.height + 1) / 2, line fb k = line fb' k := by
  have hwidth : fb.width = fb'.width := congrArg DisplaySize.width hsize
  have hheight : fb'.height = fb.height := congrArg DisplaySize.height hsize.symm
  have htext := congrArg String.toList h
  rw [Command.toList_textOf, Command.toList_textOf, commands_eq, commands_eq, hforeground,
    hbackground, hheight] at htext
  simp only [List.flatMap_cons, List.flatMap_append, List.flatMap_map, List.append_cancel_left_eq,
    List.append_cancel_right_eq, Command.toList_text_line] at htext
  intro k hk
  have hline := eq_of_flatMap_eq (fun k _ => ?_) htext k (List.mem_range.2 hk)
  · exact List.append_cancel_left hline
  · rw [List.length_append, List.length_append, length_line, length_line, hwidth]

theorem commands_eq_of_sameGrid (h : fb.SameGrid fb')
    (hforeground : fb.foreground = fb'.foreground)
    (hbackground : fb.background = fb'.background) : commands fb = commands fb' := by
  have hwidth : fb.width = fb'.width := congrArg DisplaySize.width h.size_eq
  have hheight : fb.height = fb'.height := congrArg DisplaySize.height h.size_eq
  have hline : line fb = line fb' := by
    funext k
    rw [line, line, hwidth]
    refine List.map_congr_left fun col _ => ?_
    rw [h.lit_eq, h.lit_eq]
  rw [commands_eq, commands_eq, hline, hheight, hforeground, hbackground]

/-! ### What a terminal is made to write -/

/-- Unless writing fails, a grid that asks to be drawn is drawn as a whole. -/
theorem present_of_dirty {t : Terminal} (hdirty : t.frame.dirty = true)
    (hfault : t.console.fault? = none) :
    t.present = (.ok (), { t with
      frame := t.frame.clearDirty
      console := { t.console with output := t.console.output ++ commands t.frame } }) := by
  rw [Terminal.present, if_pos hdirty, Terminal.write, Console.write, hfault]

/-- Drawing loses nothing, also if the last line is only half used. The lines of a picture are written
from the top, one for every two rows, and each of their characters shows a pixel and the one below
it. Hence grids of the same size and colours are the same if and only if the same text is written
for them. -/
theorem commands_lossless (fb : FrameBuffer) (hheight : (fb.height - 1) / 2 ≤ 65535) :
    let printed := (commands fb).filter Command.isLine
    (∀ t : Terminal, t.frame = fb → fb.dirty = true → t.console.fault? = none →
      t.present = (.ok (), { t with
        frame := fb.clearDirty
        console := { t.console with output := t.console.output ++ commands fb } })) ∧
    printed.length = (fb.height + 1) / 2 ∧
    (∀ k < (fb.height + 1) / 2, ∃ row cells,
      printed[k]? = some (.line row cells) ∧ Halves fb k row cells) ∧
    ∀ fb' : FrameBuffer, fb.size = fb'.size → fb.foreground = fb'.foreground →
      fb.background = fb'.background →
      (textOf (commands fb) = textOf (commands fb') ↔ fb.SameGrid fb') := by
  intro printed
  have hprinted : printed = _ := filter_isLine_commands fb
  refine ⟨?_, ?_, fun k hk => ?_, fun fb' hsize hforeground hbackground => ⟨fun htext => ?_, ?_⟩⟩
  · rintro t rfl
    exact present_of_dirty
  · rw [hprinted, List.length_map, List.length_range]
  · refine ⟨UInt16.ofNat k, line fb k, ?_, halves_line (by omega)⟩
    rw [hprinted, List.getElem?_map, List.getElem?_range hk, Option.map_some]
  · have hlines := line_eq_of_textOf_eq hsize hforeground hbackground htext
    exact FrameBuffer.sameGrid_of_lit hsize (lit_eq_of_line_eq hsize hlines)
  · intro hgrid
    rw [commands_eq_of_sameGrid hgrid hforeground hbackground]

/-- A pixel in the last of five rows. -/
def lowest : FrameBuffer :=
  ((FrameBuffer.new ⟨3, 5⟩).setPixel 4 1 true).2

/-- It is seen in the third line, and told from a blank grid by it. -/
theorem commands_lossless_lowest :
    (lowest.height - 1) / 2 ≤ 65535 ∧
      (∃ row cells, ((commands lowest).filter Command.isLine)[2]? = some (.line row cells) ∧
        row.toNat = 2 ∧ cells.length = 3 ∧ cells[1]?.map pixels = some (true, false)) ∧
      textOf (commands lowest) ≠ textOf (commands (FrameBuffer.new ⟨3, 5⟩)) ∧
      ({ Terminal.small with frame := lowest }).present.1 = .ok () := by
  have hheight : (lowest.height - 1) / 2 ≤ 65535 := by decide
  have hpixel : lowest.lit 4 1 = true := by decide
  have hblank : (FrameBuffer.new ⟨3, 5⟩).lit 4 1 = false := FrameBuffer.lit_new _ _ _ _ _
  obtain ⟨hpresent, -, hlines, htext⟩ := commands_lossless lowest hheight
  obtain ⟨row, cells, hline, hhalves⟩ := hlines 2 (by decide)
  refine ⟨hheight, ⟨row, cells, hline, hhalves.row_eq, hhalves.length_eq, ?_⟩, fun heq => ?_, ?_⟩
  · rw [hhalves.pixels_eq 1 (by decide), hhalves.unlit rfl]
    exact congrArg (fun top => some (top, false)) hpixel
  · have hgrid := (htext (FrameBuffer.new ⟨3, 5⟩) rfl rfl rfl).1 heq
    rw [hgrid.lit_eq, hblank] at hpixel
    cases hpixel
  · rw [hpresent { Terminal.small with frame := lowest } rfl rfl rfl]

end Picture

end Chip8
