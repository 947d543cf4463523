import Chip8.Proofs.Display.Toggle
import Mathlib.Data.List.Nodup

/-!
When drawing reports a collision. Each dot is looked at by itself, at the moment when it is drawn;
over the whole list it comes down to one count for every pixel, in which the pixel itself counts if
it was lit before. A pixel that is counted twice is one that was put out (`hit_plot`).

Dots that lie at different places do not meet each other. So on a blank grid they report nothing,
and each pixel is lit if its own dot is (`bodd_hits_of_nodup`).
-/

namespace Chip8

namespace Dot

/-- The pixel that a dot falls on. -/
def place (dot : Dot) : Nat × Nat :=
  (dot.row, dot.col)

variable {dots : List Dot} {row col : Nat}

theorem hits_pos_iff :
    0 < hits dots row col ↔ ∃ dot ∈ dots, dot.lit = true ∧ dot.place = (row, col) := by
  rw [hits, List.countP_pos_iff]
  simp [place, and_assoc]

theorem hits_le_one (h : (dots.map place).Nodup) (row col : Nat) : hits dots row col ≤ 1 := by
  have hplaces : hits dots row col ≤ (dots.map place).count (row, col) := by
    rw [List.count, List.countP_map]
    refine List.countP_mono_left fun dot _ hdot => ?_
    simp_all [place]
  exact Nat.le_trans hplaces (List.nodup_iff_count_le_one.1 h _)

/-- The only dot at a place decides what becomes of the pixel. -/
theorem bodd_hits_of_nodup (h : (dots.map place).Nodup) {dot : Dot} (hdot : dot ∈ dots) :
    (hits dots dot.row dot.col).bodd = dot.lit := by
  have hone := hits_le_one h dot.row dot.col
  have hown : 0 < hits dots dot.row dot.col ↔ dot.lit = true := by
    rw [hits_pos_iff]
    constructor
    · rintro ⟨other, hother, hlit, hplace⟩
      rwa [← List.inj_on_of_nodup_map h hother hdot hplace]
    · exact fun hlit => ⟨dot, hdot, hlit, rfl⟩
  cases hlit : dot.lit with
  | true =>
      have : hits dots dot.row dot.col = 1 := by
        have := hown.2 hlit
        omega
      rw [this]
      rfl
  | false =>
      have : hits dots dot.row dot.col = 0 := by
        have := mt hown.1 (by simp [hlit])
        omega
      rw [this]
      rfl

theorem exists_of_bodd_hits (h : (hits dots row col).bodd = true) :
    ∃ dot ∈ dots, dot.place = (row, col) := by
  have hpos : 0 < hits dots row col := by
    rcases Nat.eq_zero_or_pos (hits dots row col) with hzero | hpos
    · rw [hzero] at h
      cases h
    · exact hpos
  obtain ⟨dot, hdot, -, hplace⟩ := hits_pos_iff.1 hpos
  exact ⟨dot, hdot, hplace⟩

end Dot

namespace FrameBuffer

/-- A pixel is put out if it is hit after it was lit, or after it was hit. -/
def Collides (fb : FrameBuffer) (dots : List Dot) (row col : Nat) : Prop :=
  2 ≤ (fb.lit row col).toNat + Dot.hits dots row col

/-- Drawing the first dot makes no difference to the collisions, unless it is one. -/
theorem collides_cons {fb : FrameBuffer} {dot : Dot} (h : fb.size.Contains dot.row dot.col)
    (dots : List Dot) (row col : Nat) :
    fb.Collides (dot :: dots) row col ↔
      ((fb.lit dot.row dot.col && dot.lit) = true ∧ dot.place = (row, col)) ∨
        (fb.setPixel dot.row dot.col (fb.lit dot.row dot.col ^^ dot.lit)).2.Collides dots
          row col := by
  unfold Collides
  rw [Dot.hits_cons, lit_setPixel h]
  -- On its own pixel a lit dot is a hit more, and a pixel that was lit is one less.
  by_cases hplace : dot.row = row ∧ dot.col = col
  · obtain ⟨rfl, rfl⟩ := hplace
    cases dot.lit with
    | false => simp
    | true => cases fb.lit dot.row dot.col <;> simp [Dot.place] <;> omega
  · have hmiss : ¬ (dot.lit && dot.row == row && dot.col == col) := by
      simp only [Bool.and_eq_true, beq_iff_eq]
      exact fun heq => hplace ⟨heq.1.2, heq.2⟩
    have hother : dot.place ≠ (row, col) := fun heq => hplace (Prod.mk.inj heq)
    rw [if_neg hplace, if_neg hmiss, Nat.add_zero]
    simp [hother]

/-- Drawing reports whether a pixel was put out. -/
theorem hit_plot {fb : FrameBuffer} (hit : Bool) {dots : List Dot}
    (h : ∀ dot ∈ dots, fb.size.Contains dot.row dot.col) :
    (plot fb hit dots).2.1 = true ↔ hit = true ∨ ∃ row col, fb.Collides dots row col := by
  induction dots generalizing fb hit with
  | nil =>
      have hnone (row col : Nat) : ¬ fb.Collides [] row col := by
        unfold Collides
        cases fb.lit row col <;> simp
      simp [plot, hnone]
  | cons dot dots ih =>
      obtain ⟨hdot, hdots⟩ := List.forall_mem_cons.1 h
      have hsize := size_setPixel fb dot.row dot.col (fb.lit dot.row dot.col ^^ dot.lit)
      rw [plot_cons hdot, ih _ (by rw [hsize]; exact hdots), Bool.or_eq_true, or_assoc]
      refine or_congr_right ?_
      -- Either the first dot puts out its pixel, or a later one does, on the grid that it leaves.
      constructor
      · rintro (hfirst | ⟨row, col, hrest⟩)
        · exact ⟨dot.row, dot.col, (collides_cons hdot _ _ _).2 (.inl ⟨hfirst, rfl⟩)⟩
        · exact ⟨row, col, (collides_cons hdot _ _ _).2 (.inr hrest)⟩
      · rintro ⟨row, col, hcollides⟩
        rcases (collides_cons hdot _ _ _).1 hcollides with ⟨hfirst, -⟩ | hrest
        · exact .inl hfirst
        · exact .inr ⟨row, col, hrest⟩

end FrameBuffer

end Chip8
