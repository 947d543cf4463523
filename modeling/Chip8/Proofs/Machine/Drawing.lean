import Chip8.Machine.Build
import Chip8.Proofs.Machine.Sprite
import Mathlib.Algebra.BigOperators.Group.Finset.Basic
import Mathlib.Algebra.Group.Nat.Even
import Mathlib.Data.Nat.ModEq

/-!
Drawing as an exclusive or. A list of drawings flips every pixel as often as the drawings hit it,
so the order of the list does not matter, and a drawing that occurs twice might as well not occur
at all. What remains of a list is, for each sprite, whether it occurs an odd number of times.

The pixel sees a sum over the list; `sum_modEq` turns it into a sum over the sprites, in which only
the parities of their numbers are left.
-/

namespace Chip8

open FrameBuffer

/-- An execution of `DXYN`: its operands, and what memory, I, VX and VY are set to before it. -/
structure Drawing where
  x : Nibble
  y : Nibble
  n : Nibble
  vx : UInt8
  vy : UInt8
  /-- One register has one value. -/
  agree : x = y → vx = vy
  index : UInt16
  memory : Memory

/-- What is drawn: the bytes at the index, and the coordinates. -/
def Drawing.sprite (d : Drawing) : Sprite where
  bytes := (List.range d.n).map fun k => d.memory.read (d.index + UInt16.ofNat k)
  x := d.vx
  y := d.vy

namespace Machine

/-- The machine with everything set for a drawing. -/
def poise {D : Type} (m : Machine D) (d : Drawing) : Machine D :=
  { (m.setReg d.x d.vx).setReg d.y d.vy with index := d.index, memory := d.memory }

def drawOne {D : Type} [Display D] (m : Machine D) (d : Drawing) : Outcome D :=
  (m.poise d).execute (.draw d.x d.y d.n)

def drawAll {D : Type} [Display D] (m : Machine D) (ds : List Drawing) : Machine D :=
  ds.foldl (fun m d => (m.drawOne d).2) m

theorem sprite_poise {D : Type} (m : Machine D) (d : Drawing) :
    (m.poise d).sprite d.x d.y d.n = d.sprite := by
  have hy : (m.poise d).reg d.y = d.vy := reg_setReg_self _ d.y d.vy
  have hx : (m.poise d).reg d.x = d.vx := by
    by_cases hxy : d.x = d.y
    · rw [hxy, hy, d.agree hxy]
    · exact (reg_setReg_of_ne _ (Ne.symm hxy) d.vy).trans (reg_setReg_self m d.x d.vx)
  rw [sprite, hx, hy]
  rfl

/-! ### A list of drawings -/

variable {m : Machine FrameBuffer}

theorem FillsFrame.poise (h : m.FillsFrame) (d : Drawing) : (m.poise d).FillsFrame :=
  { h with }

theorem FillsFrame.drawOne (h : m.FillsFrame) (d : Drawing) : (m.drawOne d).2.FillsFrame :=
  (h.poise d).execute (.draw d.x d.y d.n)

theorem FillsFrame.drawAll (h : m.FillsFrame) (ds : List Drawing) :
    (m.drawAll ds).FillsFrame := by
  induction ds generalizing m with
  | nil => exact h
  | cons d ds ih => exact ih (h.drawOne d)

/-- How often the drawings of a list hit a pixel. -/
def drawnHits (compat : Compatibility) (size : DisplaySize) (ds : List Drawing)
    (row col : Nat) : Nat :=
  (ds.map fun d => Dot.hits (d.sprite.dots compat size) row col).sum

theorem lit_drawOne (h : m.FillsFrame) (d : Drawing) (row col : Nat) :
    (m.drawOne d).2.display.lit row col =
      (m.display.lit row col ^^ (Dot.hits (d.sprite.dots m.compat m.size) row col).bodd) := by
  have hdraw := ((h.poise d).execute_draw d.x d.y d.n).2.2 row col
  rw [sprite_poise] at hdraw
  exact hdraw

theorem lit_drawAll (h : m.FillsFrame) (ds : List Drawing) (row col : Nat) :
    (m.drawAll ds).display.lit row col =
      (m.display.lit row col ^^ (drawnHits m.compat m.size ds row col).bodd) := by
  induction ds generalizing m with
  | nil => simp [Machine.drawAll, drawnHits]
  | cons d ds ih =>
      have hcompat : (m.drawOne d).2.compat = m.compat := compat_execute _ _
      have hsize : (m.drawOne d).2.size = m.size := size_execute _ _
      have hsum : drawnHits m.compat m.size (d :: ds) row col =
          Dot.hits (d.sprite.dots m.compat m.size) row col +
            drawnHits m.compat m.size ds row col := List.sum_cons
      calc (m.drawAll (d :: ds)).display.lit row col
          = ((m.drawOne d).2.drawAll ds).display.lit row col := rfl
        _ = ((m.drawOne d).2.display.lit row col ^^
              (drawnHits m.compat m.size ds row col).bodd) := by
            rw [ih (h.drawOne d), hcompat, hsize]
        _ = _ := by rw [lit_drawOne h, hsum, Nat.bodd_add, Bool.xor_assoc]

theorem redrawn_drawAll (h : m.FillsFrame) (ds : List Drawing) :
    Redrawn m.display (m.drawAll ds).display := by
  induction ds generalizing m with
  | nil => exact ⟨rfl, rfl, id⟩
  | cons d ds ih =>
      exact ((h.poise d).execute_draw d.x d.y d.n).2.1.trans (ih (h.drawOne d))

/-! ### Counting modulo two -/

/-- Whether each sprite occurs in both lists an even, or in both an odd number of times. -/
def SameParity (ds ds' : List Drawing) : Prop :=
  ∀ s, (ds.map Drawing.sprite).count s ≡ (ds'.map Drawing.sprite).count s [MOD 2]

theorem sum_modEq {l l' : List Sprite} (h : ∀ s, l.count s ≡ l'.count s [MOD 2])
    (f : Sprite → Nat) : (l.map f).sum ≡ (l'.map f).sum [MOD 2] := by
  -- Both are sums over all the sprites of the two lists, with their numbers as weights.
  have hsum (k : List Sprite) (hk : k ⊆ l ++ l') :
      (k.map f).sum = ∑ s ∈ (l ++ l').toFinset, k.count s * f s := by
    rw [Finset.sum_list_map_count]
    refine Finset.sum_subset (fun s hs => ?_) fun s _ hs => ?_
    · exact List.mem_toFinset.2 (hk (List.mem_toFinset.1 hs))
    · rw [List.count_eq_zero_of_not_mem fun hmem => hs (List.mem_toFinset.2 hmem), zero_nsmul]
  rw [hsum l (List.subset_append_left l l'), hsum l' (List.subset_append_right l l')]
  unfold Nat.ModEq
  rw [Finset.sum_nat_mod, Finset.sum_nat_mod _ _ fun s => l'.count s * f s]
  exact congrArg (· % 2) (Finset.sum_congr rfl fun s _ => (h s).mul_right (f s))

theorem bodd_drawnHits {ds ds' : List Drawing} (h : SameParity ds ds') (compat : Compatibility)
    (size : DisplaySize) (row col : Nat) :
    (drawnHits compat size ds row col).bodd = (drawnHits compat size ds' row col).bodd := by
  have hmod := sum_modEq h fun s => Dot.hits (s.dots compat size) row col
  simp only [List.map_map, Nat.ModEq, Nat.mod_two_of_bodd] at hmod
  exact (by decide : ∀ p q : Bool, p.toNat = q.toNat → p = q) _ _ hmod

theorem sameGrid_drawAll (h : m.FillsFrame) {ds ds' : List Drawing} (hparity : SameParity ds ds') :
    SameGrid (m.drawAll ds).display (m.drawAll ds').display := by
  have hsize (ds : List Drawing) := (redrawn_drawAll h ds).size_eq
  refine sameGrid_of_lit ((hsize ds).trans (hsize ds').symm) fun row col => ?_
  rw [lit_drawAll h, lit_drawAll h, bodd_drawnHits hparity]

theorem buffer_drawAll (h : m.FillsFrame) (hpainted : m.display.Painted) {ds ds' : List Drawing}
    (hparity : SameParity ds ds') :
    (m.drawAll ds).display.buffer = (m.drawAll ds').display.buffer := by
  have hds := redrawn_drawAll h ds
  have hds' := redrawn_drawAll h ds'
  exact (hds.painted hpainted).buffer_eq (hds'.painted hpainted) (sameGrid_drawAll h hparity)
    (hds.shade_eq.trans hds'.shade_eq.symm)

theorem sameParity_nil {ds : List Drawing}
    (h : ∀ s, Even ((ds.map Drawing.sprite).count s)) : SameParity ds [] := by
  intro s
  exact Nat.even_iff.1 (h s)

/-- Drawing is an exclusive or. No drawing fails; lists in which the same sprites occur an odd
number of times give the same grid, so the order is of no account; and what is drawn an even number
of times is gone, from the cells and, where the grid was made by setting pixels, from the bytes that
are shown. -/
theorem drawAll_by_parity (h : m.FillsFrame) :
    (∀ ds d, ((m.drawAll ds).drawOne d).1 = .ok ()) ∧
    (∀ ds ds', SameParity ds ds' →
      SameGrid (m.drawAll ds).display (m.drawAll ds').display ∧
        (m.display.Produced → (m.drawAll ds).display.buffer = (m.drawAll ds').display.buffer)) ∧
    (∀ ds ds' : List Drawing, ds.Perm ds' →
      SameGrid (m.drawAll ds).display (m.drawAll ds').display) ∧
    ∀ ds, (∀ s, Even ((ds.map Drawing.sprite).count s)) →
      SameGrid (m.drawAll ds).display m.display ∧
        (m.display.Produced → (m.drawAll ds).display.buffer = m.display.buffer) := by
  refine ⟨fun ds d => ?_, fun ds ds' hparity => ⟨?_, ?_⟩, fun ds ds' hperm => ?_,
    fun ds heven => ⟨?_, ?_⟩⟩
  · exact (((h.drawAll ds).poise d).execute_draw d.x d.y d.n).1
  · exact sameGrid_drawAll h hparity
  · exact fun hproduced => buffer_drawAll h hproduced.painted hparity
  · refine sameGrid_drawAll h fun s => ?_
    rw [(hperm.map Drawing.sprite).count_eq]
  · exact sameGrid_drawAll h (sameParity_nil heven)
  · exact fun hproduced => buffer_drawAll h hproduced.painted (sameParity_nil heven)

/-- Two sprites that overlap each other, and each of them itself on a grid of five columns and three
rows; the second has both coordinates in one register. -/
def overlapping : List Drawing :=
  let memory := Blueprint.image {}
  [{ x := 0, y := 1, n := 3, vx := 3, vy := 2, agree := by decide, index := 0x052, memory },
    { x := 2, y := 2, n := 15, vx := 9, vy := 9, agree := fun _ => rfl, index := 0x04E, memory }]

/-- Drawn once they leave pixels behind, drawn twice they do not. -/
theorem drawAll_by_parity_overlapping :
    let fb := ((FrameBuffer.new ⟨5, 3⟩).setPixel 2 4 true).2
    let compat : Compatibility := { vertical := .wrap }
    let m := Blueprint.machine { compat } {} fb ⟨5, 3⟩
    (m.drawAll overlapping).display.lit 0 4 ∧ m.FillsFrame ∧
      SameGrid (m.drawAll (overlapping ++ overlapping)).display fb ∧
      (m.drawAll (overlapping ++ overlapping)).display.buffer = fb.buffer := by
  intro fb compat m
  have hfills : m.FillsFrame := ⟨rfl, by decide, by decide⟩
  have heven : ∀ s, Even (((overlapping ++ overlapping).map Drawing.sprite).count s) := by
    intro s
    rw [List.map_append, List.count_append]
    exact ⟨_, rfl⟩
  obtain ⟨hgrid, hbuffer⟩ := (drawAll_by_parity hfills).2.2.2 _ heven
  exact ⟨by decide +kernel, hfills, hgrid, hbuffer (.setPixel (.new _ _ _) 2 4 true)⟩

end Machine

end Chip8
