import Chip8.Proofs.Display.Toggle

/-!
Sprites as values. What `DXYN` draws is settled by the bytes that it finds at I and the two
coordinates that it finds in registers; everything else of the machine (which registers, where in
memory) is gone once the sprite is read. `spriteDots_eq_dots` reads it off the machine.

On a framebuffer with pixels, drawing and clearing cannot fail, and `execute_draw` and
`execute_clear` say what they leave of the grid.
-/

namespace Chip8

/-- The bytes of a sprite, one a row, and the coordinates that it is drawn at. -/
structure Sprite where
  bytes : List UInt8
  x : UInt8
  y : UInt8
  deriving DecidableEq, Repr

namespace Sprite

/-- The dots of a sprite on a grid. -/
def dots (s : Sprite) (compat : Compatibility) (size : DisplaySize) : List Dot :=
  (List.range s.bytes.length).flatMap fun k =>
    match compat.spriteRow (s.y.toNat % size.height) k size.height with
    | none => []
    | some row => Dot.ofByte (s.bytes.getD k 0) row (s.x.toNat % size.width) size.width

theorem contains_of_mem_dots {s : Sprite} {compat : Compatibility} {size : DisplaySize}
    (hwidth : 0 < size.width) (hheight : 0 < size.height) {dot : Dot}
    (hdot : dot ∈ s.dots compat size) : size.Contains dot.row dot.col := by
  obtain ⟨k, -, hk⟩ := List.mem_flatMap.1 hdot
  cases hrow : compat.spriteRow (s.y.toNat % size.height) k size.height with
  | none =>
      rw [hrow] at hk
      cases hk
  | some row =>
      rw [hrow] at hk
      obtain ⟨bit, -, rfl⟩ := List.mem_map.1 hk
      exact ⟨Compatibility.spriteRow_lt hheight hrow, Nat.mod_lt _ hwidth⟩

end Sprite

namespace Machine

/-- The sprite that an instruction with these operands draws. -/
def sprite {D : Type} (m : Machine D) (x y n : Nibble) : Sprite where
  bytes := (List.range n).map fun k => m.memory.read (m.index + UInt16.ofNat k)
  x := m.reg x
  y := m.reg y

theorem spriteDots_eq_dots {D : Type} (m : Machine D) (x y n : Nibble) :
    m.spriteDots x y n = (m.sprite x y n).dots m.compat m.size := by
  have hlength : (m.sprite x y n).bytes.length = n := by simp [sprite]
  unfold spriteDots Sprite.dots
  rw [hlength, List.flatMap_def, List.flatMap_def]
  refine congrArg List.flatten (List.map_congr_left fun k hk => ?_)
  have hbyte : (m.sprite x y n).bytes.getD k 0 = m.memory.read (m.index + UInt16.ofNat k) := by
    simp [sprite, List.mem_range.1 hk]
  rw [hbyte]
  rfl

/-! ### On a framebuffer -/

/-- A machine whose grid is that of its framebuffer, and has pixels. -/
structure FillsFrame (m : Machine FrameBuffer) : Prop where
  size_eq : m.display.size = m.size
  width_pos : 0 < m.size.width
  height_pos : 0 < m.size.height

variable {m : Machine FrameBuffer}

theorem FillsFrame.contains_of_mem_dots (h : m.FillsFrame) (s : Sprite) :
    ∀ dot ∈ s.dots m.compat m.size, m.display.size.Contains dot.row dot.col := by
  intro dot hdot
  rw [h.size_eq]
  exact Sprite.contains_of_mem_dots h.width_pos h.height_pos hdot

/-- Drawing succeeds, and asks for one refresh at the end. -/
theorem FillsFrame.plotAndRefresh_eq (h : m.FillsFrame) (s : Sprite) :
    plotAndRefresh m.display (s.dots m.compat m.size) =
      (.ok (), (plot m.display false (s.dots m.compat m.size)).2.1,
        (plot m.display false (s.dots m.compat m.size)).2.2.refresh) := by
  have hvisits := visits_plot m.display false (h.contains_of_mem_dots s)
  have hanswer := (FrameBuffer.visits_ok rfl hvisits).1
  unfold plotAndRefresh
  rcases hplot : plot m.display false (s.dots m.compat m.size) with ⟨_ | _, hit, fb⟩
  · rw [hplot] at hanswer
    cases hanswer
  · rfl

/-- `DXYN` on a framebuffer: it ends well, and flips the pixels that an odd number of lit dots
falls on. -/
theorem FillsFrame.execute_draw (h : m.FillsFrame) (x y n : Nibble) :
    (m.execute (.draw x y n)).1 = .ok () ∧
      FrameBuffer.Redrawn m.display (m.execute (.draw x y n)).2.display ∧
      ∀ row col, (m.execute (.draw x y n)).2.display.lit row col =
        (m.display.lit row col ^^
          (Dot.hits ((m.sprite x y n).dots m.compat m.size) row col).bodd) := by
  have hgrid := h.contains_of_mem_dots (m.sprite x y n)
  rw [execute, draw_eq, spriteDots_eq_dots, h.plotAndRefresh_eq, finish_snd]
  refine ⟨rfl, ?_, fun row col => ?_⟩
  · exact (FrameBuffer.redrawn_plot false hgrid).refresh
  · exact (congrFun (congrFun (FrameBuffer.lit_refresh _) row) col).trans
      (FrameBuffer.lit_plot false hgrid row col)

/-- `00E0` on a framebuffer: it ends well, and leaves no pixel lit. -/
theorem FillsFrame.execute_clear (h : m.FillsFrame) :
    (m.execute .clear).1 = .ok () ∧
      FrameBuffer.Redrawn m.display (m.execute .clear).2.display ∧
      ∀ row col, (m.execute .clear).2.display.lit row col = false := by
  have hgrid : ∀ p ∈ m.size.positions, m.display.size.Contains p.1 p.2 := by
    intro p hp
    rw [h.size_eq]
    exact DisplaySize.contains_of_mem_positions hp
  have hwork : wipeAndRefresh m.display m.size.positions =
      (.ok (), (wipe m.display m.size.positions).2.refresh) := by
    have hanswer := (FrameBuffer.visits_ok rfl (visits_wipe m.display hgrid)).1
    unfold wipeAndRefresh
    rcases hwipe : wipe m.display m.size.positions with ⟨_ | _, fb⟩
    · rw [hwipe] at hanswer
      cases hanswer
    · rfl
  rw [execute, clearScreen_eq, hwork, finish_snd]
  have hredrawn := FrameBuffer.redrawn_wipe hgrid
  refine ⟨rfl, hredrawn.refresh, fun row col => ?_⟩
  show (wipe m.display m.size.positions).2.refresh.lit row col = false
  rw [FrameBuffer.lit_refresh]
  by_cases hin : m.size.Contains row col
  · rw [FrameBuffer.lit_wipe hgrid, if_pos (DisplaySize.mem_positions hin)]
  · refine FrameBuffer.lit_of_not_contains ?_
    rw [hredrawn.size_eq, h.size_eq]
    exact hin

theorem FillsFrame.execute (h : m.FillsFrame) (i : Instruction) : (m.execute i).2.FillsFrame := by
  have hsize : (m.execute i).2.display.size = m.display.size := by
    cases i with
    | clear => exact h.execute_clear.2.1.size_eq
    | draw x y n => exact (h.execute_draw x y n).2.1.size_eq
    | _ => rw [display_execute]; rfl
  constructor
  · rw [hsize, size_execute]
    exact h.size_eq
  · rw [size_execute]
    exact h.width_pos
  · rw [size_execute]
    exact h.height_pos

end Machine

end Chip8
