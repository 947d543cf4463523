import Chip8.Proofs.Machine.Effect

/-!
What drawing and clearing ask of a display, whatever the display is: calls for pixels of the grid,
up to the first that is refused, and a refresh if none is. Whether the pixels are read and toggled
or just put out makes no difference here. So both are shown to be such work once, and what a
display keeps through its calls is shown of the work.
-/

namespace Chip8

/-- Whether the grid has such a pixel. -/
def DisplaySize.Contains (size : DisplaySize) (row col : Nat) : Prop :=
  row < size.height ∧ col < size.width

instance (size : DisplaySize) (row col : Nat) : Decidable (size.Contains row col) :=
  inferInstanceAs (Decidable (_ ∧ _))

theorem DisplaySize.contains_of_mem_positions {size : DisplaySize} {p : Nat × Nat}
    (h : p ∈ size.positions) : size.Contains p.1 p.2 := by
  obtain ⟨row, hrow, hp⟩ := List.mem_flatMap.1 h
  obtain ⟨col, hcol, rfl⟩ := List.mem_map.1 hp
  exact ⟨List.mem_range.1 hrow, List.mem_range.1 hcol⟩

theorem DisplaySize.mem_positions {size : DisplaySize} {row col : Nat}
    (h : size.Contains row col) : (row, col) ∈ size.positions :=
  List.mem_flatMap.2 ⟨row, List.mem_range.2 h.1, List.mem_map.2 ⟨col, List.mem_range.2 h.2, rfl⟩⟩

section Work

variable {D : Type} [Display D] {size : DisplaySize}

/-- A call for a pixel of the grid: what it was answered, and the display after it. -/
inductive PixelCall (size : DisplaySize) (d : D) : Except DisplayError Unit → D → Prop
  | read {row col : Nat} {answer : Except DisplayError Bool} {d' : D} (h : size.Contains row col)
      (call : Display.readPixel d row col = (answer, d')) :
      PixelCall size d (answer.map fun _ => ()) d'
  | set {row col : Nat} {lit : Bool} {answer : Except DisplayError Unit} {d' : D}
      (h : size.Contains row col) (call : Display.setPixel d row col lit = (answer, d')) :
      PixelCall size d answer d'

/-- Calls for pixels of the grid, up to the first that is refused. -/
inductive Visits (size : DisplaySize) : D → Except DisplayError Unit → D → Prop
  | nil (d : D) : Visits size d (.ok ()) d
  | refused {d d' : D} {e : DisplayError} (call : PixelCall size d (.error e) d') :
      Visits size d (.error e) d'
  | next {d d₁ d' : D} {answer : Except DisplayError Unit} (call : PixelCall size d (.ok ()) d₁)
      (rest : Visits size d₁ answer d') : Visits size d answer d'

/-- Calls for pixels of the grid, and a refresh once they are all answered. -/
inductive Works (size : DisplaySize) (d : D) : Except DisplayError Unit → D → Prop
  | refreshed {d₁ d' : D} {answer : Except DisplayError Unit} (visits : Visits size d (.ok ()) d₁)
      (call : Display.refresh d₁ = (answer, d')) : Works size d answer d'
  | refused {d' : D} {e : DisplayError} (visits : Visits size d (.error e) d') :
      Works size d (.error e) d'

section View

variable {α : Type} {view : D → α} {d d' : D} {answer : Except DisplayError Unit}

theorem PixelCall.view_eq (hread : ∀ d row col, view (Display.readPixel d row col).2 = view d)
    (hset : ∀ d row col lit, view (Display.setPixel d row col lit).2 = view d)
    (h : PixelCall size d answer d') : view d' = view d := by
  cases h with
  | @read row col _ _ _ hcall =>
      rw [← hread d row col, hcall]
  | @set row col lit _ _ _ hcall =>
      rw [← hset d row col lit, hcall]

/-- What no call for a pixel changes, visits do not change. -/
theorem Visits.view_eq (hread : ∀ d row col, view (Display.readPixel d row col).2 = view d)
    (hset : ∀ d row col lit, view (Display.setPixel d row col lit).2 = view d)
    (h : Visits size d answer d') : view d' = view d := by
  induction h with
  | nil d => rfl
  | refused hcall => exact hcall.view_eq hread hset
  | next hcall _ ih => exact ih.trans (hcall.view_eq hread hset)

theorem Works.view_eq (hread : ∀ d row col, view (Display.readPixel d row col).2 = view d)
    (hset : ∀ d row col lit, view (Display.setPixel d row col lit).2 = view d)
    (hrefresh : ∀ d, view (Display.refresh d).2 = view d)
    (h : Works size d answer d') : view d' = view d := by
  cases h with
  | refused hvisits => exact hvisits.view_eq hread hset
  | @refreshed d₁ _ _ hvisits hcall =>
      rw [← hvisits.view_eq hread hset, ← hrefresh d₁, hcall]

end View

theorem visits_wipe {pixels : List (Nat × Nat)} (d : D)
    (h : ∀ p ∈ pixels, size.Contains p.1 p.2) :
    Visits size d (wipe d pixels).1 (wipe d pixels).2 := by
  induction pixels generalizing d with
  | nil => exact .nil d
  | cons p pixels ih =>
      obtain ⟨row, col⟩ := p
      obtain ⟨hp, hpixels⟩ := List.forall_mem_cons.1 h
      rw [wipe]
      rcases hset : Display.setPixel d row col false with ⟨_ | _, d₁⟩
      · exact .refused (.set hp hset)
      · exact .next (.set hp hset) (ih d₁ hpixels)

theorem visits_plot {dots : List Dot} (d : D) (hit : Bool)
    (h : ∀ dot ∈ dots, size.Contains dot.row dot.col) :
    Visits size d (plot d hit dots).1 (plot d hit dots).2.2 := by
  induction dots generalizing d hit with
  | nil => exact .nil d
  | cons dot dots ih =>
      obtain ⟨hdot, hdots⟩ := List.forall_mem_cons.1 h
      rw [plot]
      rcases hread : Display.readPixel d dot.row dot.col with ⟨_ | before, d₁⟩
      · exact .refused (.read hdot hread)
      · refine .next (.read hdot hread) ?_
        dsimp only
        rcases hset : Display.setPixel d₁ dot.row dot.col (before ^^ dot.lit) with ⟨_ | _, d₂⟩
        · exact .refused (.set hdot hset)
        · exact .next (.set hdot hset) (ih d₂ _ hdots)

theorem works_wipeAndRefresh {pixels : List (Nat × Nat)} (d : D)
    (h : ∀ p ∈ pixels, size.Contains p.1 p.2) :
    Works size d (wipeAndRefresh d pixels).1 (wipeAndRefresh d pixels).2 := by
  have hvisits := visits_wipe d h
  unfold wipeAndRefresh
  rcases hwipe : wipe d pixels with ⟨_ | _, d₁⟩
  all_goals rw [hwipe] at hvisits
  · exact .refused hvisits
  · exact .refreshed hvisits rfl

theorem works_plotAndRefresh {dots : List Dot} (d : D)
    (h : ∀ dot ∈ dots, size.Contains dot.row dot.col) :
    Works size d (plotAndRefresh d dots).1 (plotAndRefresh d dots).2.2 := by
  have hvisits := visits_plot d false h
  unfold plotAndRefresh
  rcases hplot : plot d false dots with ⟨_ | _, hit, d₁⟩
  all_goals rw [hplot] at hvisits
  · exact .refused hvisits
  · exact .refreshed hvisits rfl

end Work

end Chip8
