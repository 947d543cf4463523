import Chip8.Proofs.Display.Storage
import Mathlib.Data.Nat.Bits

/-!
What drawing does to the pixels of a framebuffer. A dot is a read and a write, and what it writes
depends on every dot before it; but a lit dot flips its pixel and no other, so of a whole list of
dots all that a pixel keeps is how many of them hit it, counted modulo two. `lit_plot` says so. It
makes dots, and with them sprites, commute.

A framebuffer keeps its grid twice, as cells and as colours, and a dot that is not lit still writes
the colour of its pixel anew. So drawing twice gives the colours back only where they agreed with
the cells to begin with. They do wherever pixels were set and nothing else (`Painted`).
-/

namespace Chip8

/-- How many of the lit dots fall on a pixel. -/
def Dot.hits (dots : List Dot) (row col : Nat) : Nat :=
  dots.countP fun dot => dot.lit && dot.row == row && dot.col == col

@[simp] theorem Dot.hits_nil (row col : Nat) : Dot.hits [] row col = 0 := rfl

theorem Dot.hits_cons (dot : Dot) (dots : List Dot) (row col : Nat) :
    hits (dot :: dots) row col =
      hits dots row col + if dot.lit && dot.row == row && dot.col == col then 1 else 0 :=
  List.countP_cons

namespace FrameBuffer

/-! ### Cells -/

theorem lit_of_contains {fb : FrameBuffer} {row col : Nat} (h : fb.size.Contains row col) :
    fb.lit row col = fb.cells.get ⟨row * fb.size.width + col, index_lt h.1 h.2⟩ := by
  rw [lit_eq, dif_pos h]
  rfl

theorem lit_of_not_contains {fb : FrameBuffer} {row col : Nat} (h : ¬ fb.size.Contains row col) :
    fb.lit row col = false := by
  rw [lit_eq, dif_neg h]

theorem lit_setPixel_self {fb : FrameBuffer} {row col : Nat} (h : fb.size.Contains row col)
    (v : Bool) : (fb.setPixel row col v).2.lit row col = v := by
  rw [setPixel, index?_of_contains h, lit_of_contains (by exact h)]
  exact Vector.getElem_set_self _

theorem lit_setPixel {fb : FrameBuffer} {row col : Nat} (h : fb.size.Contains row col) (v : Bool)
    (row' col' : Nat) :
    (fb.setPixel row col v).2.lit row' col' =
      if row = row' ∧ col = col' then v else fb.lit row' col' := by
  split_ifs with heq
  · obtain ⟨rfl, rfl⟩ := heq
    exact lit_setPixel_self h v
  · refine lit_setPixel_of_ne fb v ?_
    rintro ⟨⟩
    exact heq ⟨rfl, rfl⟩

theorem lit_new (size : DisplaySize) (foreground background : Color) (row col : Nat) :
    (new size foreground background).lit row col = false := by
  by_cases h : size.Contains row col
  · rw [lit_of_contains (by exact h)]
    exact Vector.getElem_replicate _
  · exact lit_of_not_contains h

theorem pixel_of_contains {fb : FrameBuffer} {row col : Nat} (h : fb.size.Contains row col) :
    fb.pixel row col = .ok (fb.lit row col) := by
  rw [pixel, index?_of_contains h, lit_of_contains h]
  rfl

theorem setPixel_fst_of_contains {fb : FrameBuffer} {row col : Nat}
    (h : fb.size.Contains row col) (v : Bool) : (fb.setPixel row col v).1 = .ok () := by
  rw [setPixel, index?_of_contains h]

theorem pixel_of_not_contains {fb : FrameBuffer} {row col : Nat}
    (h : ¬ fb.size.Contains row col) : fb.pixel row col = .error (.outOfBounds row col) := by
  rw [pixel, index?_of_not_contains h]

theorem setPixel_of_not_contains {fb : FrameBuffer} {row col : Nat}
    (h : ¬ fb.size.Contains row col) (v : Bool) :
    fb.setPixel row col v = (.error (.outOfBounds row col), fb) := by
  rw [setPixel, index?_of_not_contains h]

/-- The cells in row-major order: cell `i` is the pixel in row `i / width`. -/
theorem get_cells (fb : FrameBuffer) {i : Nat} (hi : i < fb.size.pixelCount) :
    fb.cells.get ⟨i, hi⟩ = fb.lit (i / fb.size.width) (i % fb.size.width) := by
  have hi' : i < fb.size.height * fb.size.width := by
    rw [Nat.mul_comm]
    exact hi
  have hw : 0 < fb.size.width := by
    rcases Nat.eq_zero_or_pos fb.size.width with h | h
    · rw [h, Nat.mul_zero] at hi'
      omega
    · exact h
  have hgrid : fb.size.Contains (i / fb.size.width) (i % fb.size.width) :=
    ⟨Nat.div_lt_of_lt_mul (by rw [Nat.mul_comm]; exact hi'), Nat.mod_lt _ hw⟩
  have hposition : i = i / fb.size.width * fb.size.width + i % fb.size.width :=
    (Nat.div_add_mod' i fb.size.width).symm
  rw [lit_of_contains hgrid]
  exact congrArg fb.cells.get (Fin.ext hposition)

/-! ### Grids -/

/-- Two framebuffers of one size that show the same pixels. -/
structure SameGrid (fb fb' : FrameBuffer) : Prop where
  size_eq : fb.size = fb'.size
  cells_eq : fb.cells.toList = fb'.cells.toList

theorem sameGrid_of_lit {fb fb' : FrameBuffer} (hsize : fb.size = fb'.size)
    (hlit : ∀ row col, fb.lit row col = fb'.lit row col) : SameGrid fb fb' where
  size_eq := hsize
  cells_eq := by
    refine List.ext_getElem (by simp [hsize]) fun i hi hi' => ?_
    rw [Vector.length_toList] at hi hi'
    calc fb.cells.toList[i] = fb.lit (i / fb.size.width) (i % fb.size.width) := fb.get_cells hi
      _ = fb'.lit (i / fb'.size.width) (i % fb'.size.width) := by rw [hlit, hsize]
      _ = fb'.cells.toList[i] := (fb'.get_cells hi').symm

theorem SameGrid.lit_eq {fb fb' : FrameBuffer} (h : SameGrid fb fb') (row col : Nat) :
    fb.lit row col = fb'.lit row col := by
  by_cases hgrid : fb.size.Contains row col
  · have hgrid' : fb'.size.Contains row col := by
      rw [← h.size_eq]
      exact hgrid
    have hcell (fb : FrameBuffer) {i : Nat} (hi : i < fb.size.pixelCount) :
        some (fb.cells.get ⟨i, hi⟩) = fb.cells.toList[i]? := by
      rw [List.getElem?_eq_getElem (by rwa [Vector.length_toList]), Vector.getElem_toList]
      rfl
    rw [lit_of_contains hgrid, lit_of_contains hgrid', ← Option.some_inj, hcell, hcell,
      h.cells_eq, h.size_eq]
  · have hgrid' : ¬ fb'.size.Contains row col := by
      rw [← h.size_eq]
      exact hgrid
    rw [lit_of_not_contains hgrid, lit_of_not_contains hgrid']

/-! ### Colours -/

/-- Every pixel shows the colour of its cell. -/
def Painted (fb : FrameBuffer) : Prop :=
  fb.pixels = fb.cells.map fb.shade

theorem painted_new (size : DisplaySize) (foreground background : Color) :
    (new size foreground background).Painted := by
  show Vector.replicate _ background = (Vector.replicate _ false).map _
  rw [Vector.map_replicate]
  rfl

theorem Painted.setPixel {fb : FrameBuffer} (h : fb.Painted) (row col : Nat) (v : Bool) :
    (fb.setPixel row col v).2.Painted := by
  unfold FrameBuffer.setPixel
  split
  · show fb.pixels.set _ (fb.shade v) = (fb.cells.set _ v).map fb.shade
    rw [Vector.map_set, ← h]
  · exact h

/-- The framebuffers whose grid was made by setting pixels, whatever else was asked of them. -/
inductive Produced : FrameBuffer → Prop
  | new (size : DisplaySize) (foreground background : Color) :
      Produced (.new size foreground background)
  | setPixel {fb : FrameBuffer} (h : Produced fb) (row col : Nat) (lit : Bool) :
      Produced (fb.setPixel row col lit).2
  | refresh {fb : FrameBuffer} (h : Produced fb) : Produced fb.refresh
  | clearDirty {fb : FrameBuffer} (h : Produced fb) : Produced fb.clearDirty
  | pressKey {fb : FrameBuffer} (h : Produced fb) (key : UInt8) : Produced (fb.pressKey key)
  | releaseKey {fb : FrameBuffer} (h : Produced fb) : Produced fb.releaseKey

theorem Produced.painted {fb : FrameBuffer} (h : fb.Produced) : fb.Painted := by
  induction h with
  | new size foreground background => exact painted_new size foreground background
  | setPixel _ row col v ih => exact ih.setPixel row col v
  | refresh _ ih | clearDirty _ ih | pressKey _ _ ih | releaseKey _ ih => exact ih

/-- What is shown follows from the grid and the two colours. -/
theorem Painted.buffer_eq {fb fb' : FrameBuffer} (h : fb.Painted) (h' : fb'.Painted)
    (hgrid : SameGrid fb fb') (hshade : fb.shade = fb'.shade) : fb.buffer = fb'.buffer := by
  rw [buffer, buffer, h, h', Vector.toList_map, Vector.toList_map, hgrid.cells_eq, hshade]

/-! ### Dots -/

/-- What drawing leaves of a framebuffer apart from its pixels. -/
structure Redrawn (fb fb' : FrameBuffer) : Prop where
  size_eq : fb'.size = fb.size
  shade_eq : fb'.shade = fb.shade
  painted : fb.Painted → fb'.Painted

theorem redrawn_setPixel (fb : FrameBuffer) (row col : Nat) (v : Bool) :
    Redrawn fb (fb.setPixel row col v).2 where
  size_eq := size_setPixel fb row col v
  shade_eq := by
    unfold setPixel
    split <;> rfl
  painted h := h.setPixel row col v

theorem Redrawn.trans {fb fb₁ fb₂ : FrameBuffer} (h : Redrawn fb fb₁) (h' : Redrawn fb₁ fb₂) :
    Redrawn fb fb₂ where
  size_eq := h'.size_eq.trans h.size_eq
  shade_eq := h'.shade_eq.trans h.shade_eq
  painted hpainted := h'.painted (h.painted hpainted)

theorem Redrawn.refresh {fb fb' : FrameBuffer} (h : Redrawn fb fb') : Redrawn fb fb'.refresh :=
  { h with }

/-- One dot: a lit one flips its pixel, and every other pixel stays. -/
theorem plot_cons {fb : FrameBuffer} {dot : Dot} (h : fb.size.Contains dot.row dot.col)
    (hit : Bool) (dots : List Dot) :
    plot fb hit (dot :: dots) =
      plot (fb.setPixel dot.row dot.col (fb.lit dot.row dot.col ^^ dot.lit)).2
        (hit || (fb.lit dot.row dot.col && dot.lit)) dots := by
  have hread : Display.readPixel fb dot.row dot.col = (.ok (fb.lit dot.row dot.col), fb) :=
    Prod.ext (pixel_of_contains h) rfl
  have hset (v : Bool) : Display.setPixel fb dot.row dot.col v =
      (.ok (), (fb.setPixel dot.row dot.col v).2) :=
    Prod.ext (setPixel_fst_of_contains h v) rfl
  rw [plot, hread]
  dsimp only
  rw [hset]

theorem redrawn_plot {fb : FrameBuffer} (hit : Bool) {dots : List Dot}
    (h : ∀ dot ∈ dots, fb.size.Contains dot.row dot.col) :
    Redrawn fb (plot fb hit dots).2.2 := by
  induction dots generalizing fb hit with
  | nil => exact ⟨rfl, rfl, id⟩
  | cons dot dots ih =>
      obtain ⟨hdot, hdots⟩ := List.forall_mem_cons.1 h
      have hone := redrawn_setPixel fb dot.row dot.col (fb.lit dot.row dot.col ^^ dot.lit)
      rw [plot_cons hdot]
      refine hone.trans (ih _ ?_)
      rw [hone.size_eq]
      exact hdots

/-- Of all the dots a pixel keeps the parity of those that hit it. -/
theorem lit_plot {fb : FrameBuffer} (hit : Bool) {dots : List Dot}
    (h : ∀ dot ∈ dots, fb.size.Contains dot.row dot.col) (row col : Nat) :
    (plot fb hit dots).2.2.lit row col = (fb.lit row col ^^ (Dot.hits dots row col).bodd) := by
  induction dots generalizing fb hit with
  | nil => simp [plot]
  | cons dot dots ih =>
      obtain ⟨hdot, hdots⟩ := List.forall_mem_cons.1 h
      have hsize := size_setPixel fb dot.row dot.col (fb.lit dot.row dot.col ^^ dot.lit)
      rw [plot_cons hdot, ih _ (by rw [hsize]; exact hdots), lit_setPixel hdot, Dot.hits_cons]
      by_cases hpixel : dot.row = row ∧ dot.col = col
      · obtain ⟨rfl, rfl⟩ := hpixel
        cases hlit : dot.lit <;> simp [Nat.bodd_succ]
      · -- The dot falls on another pixel, so it neither sets nor counts for this one.
        have hmiss : ¬ (dot.lit && dot.row == row && dot.col == col) := by
          intro h
          simp only [Bool.and_eq_true, beq_iff_eq] at h
          exact hpixel ⟨h.1.2, h.2⟩
        rw [if_neg hpixel, if_neg hmiss, Nat.add_zero]

/-! ### Clearing -/

theorem wipe_cons {fb : FrameBuffer} {p : Nat × Nat} (h : fb.size.Contains p.1 p.2)
    (pixels : List (Nat × Nat)) :
    wipe fb (p :: pixels) = wipe (fb.setPixel p.1 p.2 false).2 pixels := by
  have hset : Display.setPixel fb p.1 p.2 false = (.ok (), (fb.setPixel p.1 p.2 false).2) :=
    Prod.ext (setPixel_fst_of_contains h false) rfl
  rw [wipe, hset]

theorem redrawn_wipe {fb : FrameBuffer} {pixels : List (Nat × Nat)}
    (h : ∀ p ∈ pixels, fb.size.Contains p.1 p.2) : Redrawn fb (wipe fb pixels).2 := by
  induction pixels generalizing fb with
  | nil => exact ⟨rfl, rfl, id⟩
  | cons p pixels ih =>
      obtain ⟨hp, hpixels⟩ := List.forall_mem_cons.1 h
      have hone := redrawn_setPixel fb p.1 p.2 false
      rw [wipe_cons hp]
      refine hone.trans (ih ?_)
      rw [hone.size_eq]
      exact hpixels

theorem lit_wipe {fb : FrameBuffer} {pixels : List (Nat × Nat)}
    (h : ∀ p ∈ pixels, fb.size.Contains p.1 p.2) (row col : Nat) :
    (wipe fb pixels).2.lit row col = if (row, col) ∈ pixels then false else fb.lit row col := by
  induction pixels generalizing fb with
  | nil => exact (if_neg List.not_mem_nil).symm
  | cons p pixels ih =>
      obtain ⟨hp, hpixels⟩ := List.forall_mem_cons.1 h
      have hsize := size_setPixel fb p.1 p.2 false
      rw [wipe_cons hp, ih (by rw [hsize]; exact hpixels), lit_setPixel hp]
      by_cases hrest : (row, col) ∈ pixels
      · rw [if_pos hrest, if_pos (List.mem_cons_of_mem p hrest)]
      · by_cases hfirst : p.1 = row ∧ p.2 = col
        · have hmem : (row, col) ∈ p :: pixels :=
            List.mem_cons.2 (.inl (Prod.ext hfirst.1.symm hfirst.2.symm))
          rw [if_neg hrest, if_pos hfirst, if_pos hmem]
        · have hnot : (row, col) ∉ p :: pixels := by
            rintro hmem
            rcases List.mem_cons.1 hmem with rfl | hmem
            · exact hfirst ⟨rfl, rfl⟩
            · exact hrest hmem
          rw [if_neg hrest, if_neg hfirst, if_neg hnot]

end FrameBuffer

end Chip8
