import Chip8.Display.Bench
import Chip8.Proofs.Display.Work

/-!
Displays that store pixels. What an adapter stores may be larger than the size that it reports;
whatever lies outside that size is out of reach for a machine.
-/

namespace Chip8

/-- What it takes for `lit` to say which pixels of a display are lit: a pixel changes only when it
is set. -/
structure Storage {D : Type} [Display D] (lit : D → (row col : Nat) → Bool) : Prop where
  readPixel : ∀ d row col, lit (Display.readPixel d row col).2 = lit d
  setPixel : ∀ d row col v row' col', (row', col') ≠ (row, col) →
    lit (Display.setPixel d row col v).2 row' col' = lit d row' col'
  refresh : ∀ d, lit (Display.refresh d).2 = lit d
  pollKey : ∀ d, lit (Display.pollKey d).2 = lit d

namespace Storage

variable {D : Type} [Display D] {lit : D → Nat → Nat → Bool} {size : DisplaySize}
  {answer : Except DisplayError Unit} {d d' : D} {row col : Nat}

theorem pixelCall (hlit : Storage lit) (hout : ¬ size.Contains row col)
    (h : PixelCall size d answer d') : lit d' row col = lit d row col := by
  cases h with
  | @read r c _ _ _ hcall =>
      have hread := hlit.readPixel d r c
      rw [hcall] at hread
      exact congrFun (congrFun hread row) col
  | @set r c v _ _ hgrid hcall =>
      have hne : (row, col) ≠ (r, c) := by
        rintro ⟨⟩
        exact hout hgrid
      have hset := hlit.setPixel d r c v row col hne
      rwa [hcall] at hset

theorem visits (hlit : Storage lit) (hout : ¬ size.Contains row col)
    (h : Visits size d answer d') : lit d' row col = lit d row col := by
  induction h with
  | nil d => rfl
  | refused hcall => exact hlit.pixelCall hout hcall
  | next hcall _ ih => exact ih.trans (hlit.pixelCall hout hcall)

/-- Work leaves every pixel outside the grid as it is. -/
theorem works (hlit : Storage lit) (hout : ¬ size.Contains row col)
    (h : Works size d answer d') : lit d' row col = lit d row col := by
  cases h with
  | refused hvisits => exact hlit.visits hout hvisits
  | @refreshed d₁ _ _ hvisits hcall =>
      have hrefresh := hlit.refresh d₁
      rw [hcall] at hrefresh
      exact (congrFun (congrFun hrefresh row) col).trans (hlit.visits hout hvisits)

end Storage

/-! ### A framebuffer, and a bench -/

namespace FrameBuffer

theorem index?_of_contains {fb : FrameBuffer} {row col : Nat} (h : fb.size.Contains row col) :
    fb.index? row col = some ⟨row * fb.size.width + col, index_lt h.1 h.2⟩ := dif_pos h

theorem index?_of_not_contains {fb : FrameBuffer} {row col : Nat}
    (h : ¬ fb.size.Contains row col) : fb.index? row col = none := dif_neg h

theorem lit_eq (fb : FrameBuffer) (row col : Nat) :
    fb.lit row col =
      if h : fb.size.Contains row col then
        fb.cells[(⟨row * fb.size.width + col, index_lt h.1 h.2⟩ : Fin fb.size.pixelCount)]
      else false := by
  by_cases hgrid : fb.size.Contains row col
  · rw [lit, index?_of_contains hgrid, dif_pos hgrid]
  · rw [lit, index?_of_not_contains hgrid, dif_neg hgrid]

/-- The position of a pixel tells its row and its column. -/
theorem eq_of_position_eq {w row col row' col' : Nat} (hcol : col < w) (hcol' : col' < w)
    (h : row * w + col = row' * w + col') : (row', col') = (row, col) := by
  have hpos : 0 < w := Nat.zero_lt_of_lt hcol
  have hrow : row = row' := by
    have hdiv := congrArg (· / w) h
    simpa only [Nat.add_comm, Nat.add_mul_div_right _ _ hpos, Nat.div_eq_of_lt hcol,
      Nat.div_eq_of_lt hcol', Nat.add_zero, Nat.zero_add] using hdiv
  subst hrow
  rw [Nat.add_left_cancel h]

theorem lit_setPixel_of_ne (fb : FrameBuffer) {row col row' col' : Nat} (v : Bool)
    (h : (row', col') ≠ (row, col)) :
    (fb.setPixel row col v).2.lit row' col' = fb.lit row' col' := by
  by_cases hgrid : fb.size.Contains row col
  · rw [setPixel, index?_of_contains hgrid, lit_eq, lit_eq]
    by_cases hgrid' : fb.size.Contains row' col'
    · rw [dif_pos hgrid', dif_pos hgrid']
      exact Vector.getElem_set_ne (index_lt hgrid.1 hgrid.2) (index_lt hgrid'.1 hgrid'.2)
        fun heq => h (eq_of_position_eq hgrid.2 hgrid'.2 heq)
    · rw [dif_neg hgrid', dif_neg hgrid']
  · rw [setPixel, index?_of_not_contains hgrid]

theorem lit_refresh (fb : FrameBuffer) : fb.refresh.lit = fb.lit := by
  funext row col
  rw [lit_eq, lit_eq]
  rfl

theorem storage : Storage lit where
  readPixel _ _ _ := rfl
  setPixel fb _ _ v _ _ h := fb.lit_setPixel_of_ne v h
  refresh fb := fb.lit_refresh
  pollKey _ := rfl

/-! A framebuffer answers every call for a pixel of its own grid. -/

theorem pixelCall_ok {size : DisplaySize} {fb fb' : FrameBuffer}
    {answer : Except DisplayError Unit} (hsize : fb.size = size)
    (h : PixelCall size fb answer fb') : answer = .ok () ∧ fb'.size = size := by
  cases h with
  | read hgrid hcall =>
      cases hcall
      rw [← hsize] at hgrid
      rw [pixel, index?_of_contains hgrid]
      exact ⟨rfl, hsize⟩
  | @set row col lit _ _ hgrid hcall =>
      rw [← hsize] at hgrid
      have hanswer : (fb.setPixel row col lit).1 = answer := congrArg Prod.fst hcall
      have hafter : (fb.setPixel row col lit).2 = fb' := congrArg Prod.snd hcall
      rw [← hafter, size_setPixel, ← hanswer, setPixel, index?_of_contains hgrid]
      exact ⟨rfl, hsize⟩

theorem visits_ok {size : DisplaySize} {fb fb' : FrameBuffer}
    {answer : Except DisplayError Unit} (hsize : fb.size = size)
    (h : Visits size fb answer fb') : answer = .ok () ∧ fb'.size = size := by
  induction h with
  | nil fb => exact ⟨rfl, hsize⟩
  | refused hcall => exact pixelCall_ok hsize hcall
  | next hcall _ ih => exact ih (pixelCall_ok hsize hcall).2

theorem works_ok {size : DisplaySize} {fb fb' : FrameBuffer}
    {answer : Except DisplayError Unit} (hsize : fb.size = size)
    (h : Works size fb answer fb') : answer = .ok () ∧ fb'.size = size := by
  cases h with
  | refused hvisits => exact visits_ok hsize hvisits
  | refreshed hvisits hcall =>
      cases hcall
      exact ⟨rfl, (visits_ok hsize hvisits).2⟩

end FrameBuffer

/-- A bench stores the pixels of its framebuffer, whatever size it reports. -/
theorem Bench.storage : Storage fun b : Bench => b.frame.lit where
  readPixel _ _ _ := rfl
  setPixel b _ _ v _ _ h := b.frame.lit_setPixel_of_ne v h
  refresh b := by
    show (Bench.refresh b).2.frame.lit = b.frame.lit
    unfold Bench.refresh
    split
    · rfl
    · exact b.frame.lit_refresh
  pollKey _ := rfl

end Chip8
