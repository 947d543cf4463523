import Chip8.Proofs.Display.Collision
import Chip8.Proofs.Display.Recorder
import Chip8.Proofs.Machine.Transport

/-!
Adapters that keep their pixels in a framebuffer and report whatever size they like. A machine goes
by the size that is reported, so its work may stray out of what is stored. Then it stops at the
first pixel outside, and what came before stays done: `PixelHom.plot_of_outside` and
`PixelHom.wipe_of_outside` say where the work stops and what it leaves.

Where work stops is a place in a list, and what it leaves is told by the list up to there. For the
pixels of a grid that list is put in terms of the grid again: a pixel stands in it if it precedes
the one where the work stopped (`exists_positions_eq`).
-/

namespace Chip8

namespace DisplaySize

/-- Row-major order. -/
def Precedes (p q : Nat × Nat) : Prop :=
  p.1 < q.1 ∨ p.1 = q.1 ∧ p.2 < q.2

instance (p q : Nat × Nat) : Decidable (Precedes p q) :=
  inferInstanceAs (Decidable (_ ∨ _))

theorem pairwise_positions (size : DisplaySize) : size.positions.Pairwise Precedes := by
  refine List.pairwise_flatMap.2 ⟨fun row _ => ?_, List.pairwise_lt_range.imp ?_⟩
  · exact List.pairwise_map.2 (List.pairwise_lt_range.imp fun hlt => .inr ⟨rfl, hlt⟩)
  · intro row row' hlt p hp p' hp'
    obtain ⟨col, -, rfl⟩ := List.mem_map.1 hp
    obtain ⟨col', -, rfl⟩ := List.mem_map.1 hp'
    exact .inl hlt

/-- Of the pixels of a grid, those that precede `stop` come before it, and no others. -/
theorem exists_positions_eq {size : DisplaySize} {stop : Nat × Nat}
    (h : size.Contains stop.1 stop.2) :
    ∃ before after, size.positions = before ++ stop :: after ∧
      ∀ p : Nat × Nat, p ∈ before ↔ size.Contains p.1 p.2 ∧ Precedes p stop := by
  obtain ⟨before, after, hsplit⟩ := List.append_of_mem (mem_positions h)
  have hordered := size.pairwise_positions
  rw [hsplit, List.pairwise_append, List.pairwise_cons] at hordered
  obtain ⟨-, ⟨hafter, -⟩, hbefore⟩ := hordered
  refine ⟨before, after, hsplit, fun p => ⟨fun hp => ⟨?_, ?_⟩, fun ⟨hgrid, hprecedes⟩ => ?_⟩⟩
  · refine contains_of_mem_positions ?_
    rw [hsplit]
    exact List.mem_append_left _ hp
  · exact hbefore p hp stop List.mem_cons_self
  · have hp : p ∈ size.positions := mem_positions hgrid
    rw [hsplit, List.mem_append, List.mem_cons] at hp
    unfold Precedes at hprecedes hafter
    -- What comes behind `stop` is preceded by it, so that nothing there can precede it.
    rcases hp with hp | rfl | hp
    · exact hp
    · omega
    · have := hafter p hp
      omega

end DisplaySize

/-! ### Work, part by part -/

section Parts

variable {D : Type} [Display D]

/-- Dots are drawn one list after the other, as long as none is refused. -/
theorem plot_append {d d' : D} {hit hit' : Bool} {before : List Dot}
    (h : plot d hit before = (.ok (), hit', d')) (rest : List Dot) :
    plot d hit (before ++ rest) = plot d' hit' rest := by
  induction before generalizing d hit with
  | nil =>
      cases h
      rfl
  | cons dot before ih =>
      rw [plot] at h
      rw [List.cons_append, plot]
      rcases hread : Display.readPixel d dot.row dot.col with ⟨_ | lit, d₁⟩
      all_goals rw [hread] at h
      · cases h
      · dsimp only at h ⊢
        rcases hset : Display.setPixel d₁ dot.row dot.col (lit ^^ dot.lit) with ⟨_ | _, d₂⟩
        all_goals rw [hset] at h
        · cases h
        · exact ih h

theorem wipe_append {d d' : D} {before : List (Nat × Nat)} (h : wipe d before = (.ok (), d'))
    (rest : List (Nat × Nat)) : wipe d (before ++ rest) = wipe d' rest := by
  induction before generalizing d with
  | nil =>
      cases h
      rfl
  | cons p before ih =>
      obtain ⟨row, col⟩ := p
      rw [wipe] at h
      rw [List.cons_append, wipe]
      rcases hset : Display.setPixel d row col false with ⟨_ | _, d₁⟩
      all_goals rw [hset] at h
      · cases h
      · exact ih h

theorem plotAndRefresh_of_error {d d' : D} {dots : List Dot} {e : DisplayError} {hit : Bool}
    (h : plot d false dots = (.error e, hit, d')) : plotAndRefresh d dots = (.error e, hit, d') := by
  rw [plotAndRefresh, h]

theorem plotAndRefresh_of_ok {d d' : D} {dots : List Dot} {hit : Bool}
    (h : plot d false dots = (.ok (), hit, d')) :
    plotAndRefresh d dots = ((Display.refresh d').1, hit, (Display.refresh d').2) := by
  rw [plotAndRefresh, h]

theorem wipeAndRefresh_of_error {d d' : D} {pixels : List (Nat × Nat)} {e : DisplayError}
    (h : wipe d pixels = (.error e, d')) : wipeAndRefresh d pixels = (.error e, d') := by
  rw [wipeAndRefresh, h]

theorem wipeAndRefresh_of_ok {d d' : D} {pixels : List (Nat × Nat)}
    (h : wipe d pixels = (.ok (), d')) : wipeAndRefresh d pixels = Display.refresh d' := by
  rw [wipeAndRefresh, h]

end Parts

/-! ### Pixels kept in a framebuffer -/

namespace PixelHom

variable {D : Type} [Display D] {frame : D → FrameBuffer} {d : D}

theorem readPixel_of_outside (hframe : PixelHom frame) {row col : Nat}
    (h : ¬ (frame d).size.Contains row col) :
    ∃ d', Display.readPixel d row col = (.error (.outOfBounds row col), d') ∧
      frame d' = frame d := by
  have hread := hframe.readPixel d row col
  have hanswer : (Display.readPixel d row col).1 = .error (.outOfBounds row col) :=
    (congrArg Prod.fst hread).symm.trans (FrameBuffer.pixel_of_not_contains h)
  exact ⟨_, Prod.ext hanswer rfl, (congrArg Prod.snd hread).symm⟩

theorem setPixel_of_outside (hframe : PixelHom frame) {row col : Nat}
    (h : ¬ (frame d).size.Contains row col) (lit : Bool) :
    ∃ d', Display.setPixel d row col lit = (.error (.outOfBounds row col), d') ∧
      frame d' = frame d := by
  have hset := hframe.setPixel d row col lit
  have hstored : Display.setPixel (frame d) row col lit = _ :=
    FrameBuffer.setPixel_of_not_contains h lit
  rw [hstored] at hset
  exact ⟨_, Prod.ext (congrArg Prod.fst hset).symm rfl, (congrArg Prod.snd hset).symm⟩

/-! Inside what is stored, nothing is refused. -/

theorem plot_of_inside (hframe : PixelHom frame) {dots : List Dot}
    (h : ∀ dot ∈ dots, (frame d).size.Contains dot.row dot.col) (hit : Bool) :
    ∃ d', plot d hit dots = (.ok (), (plot (frame d) hit dots).2.1, d') ∧
      frame d' = (plot (frame d) hit dots).2.2 := by
  have hplot := hframe.plot_eq dots d hit
  have hanswer : (plot d hit dots).1 = .ok () :=
    (congrArg Prod.fst hplot).symm.trans
      (FrameBuffer.visits_ok rfl (visits_plot (frame d) hit h)).1
  exact ⟨_, Prod.ext hanswer (Prod.ext (congrArg (·.2.1) hplot).symm rfl),
    (congrArg (·.2.2) hplot).symm⟩

theorem wipe_of_inside (hframe : PixelHom frame) {pixels : List (Nat × Nat)}
    (h : ∀ p ∈ pixels, (frame d).size.Contains p.1 p.2) :
    ∃ d', wipe d pixels = (.ok (), d') ∧ frame d' = (wipe (frame d) pixels).2 := by
  have hwipe := hframe.wipe_eq pixels d
  have hanswer : (wipe d pixels).1 = .ok () :=
    (congrArg Prod.fst hwipe).symm.trans (FrameBuffer.visits_ok rfl (visits_wipe (frame d) h)).1
  exact ⟨_, Prod.ext hanswer rfl, (congrArg Prod.snd hwipe).symm⟩

/-! The first pixel outside is refused, and that is the end of the work. -/

theorem plot_of_outside (hframe : PixelHom frame) {before : List Dot} {cell : Dot}
    (hbefore : ∀ dot ∈ before, (frame d).size.Contains dot.row dot.col)
    (hcell : ¬ (frame d).size.Contains cell.row cell.col) (hit : Bool) (after : List Dot) :
    ∃ d₁ d', plot d hit before = (.ok (), (plot (frame d) hit before).2.1, d₁) ∧
      Display.readPixel d₁ cell.row cell.col =
        (.error (.outOfBounds cell.row cell.col), d') ∧
      plot d hit (before ++ cell :: after) =
        (.error (.outOfBounds cell.row cell.col), (plot (frame d) hit before).2.1, d') ∧
      frame d' = (plot (frame d) hit before).2.2 := by
  obtain ⟨d₁, hplot, hframe₁⟩ := hframe.plot_of_inside hbefore hit
  have hsize : (frame d₁).size = (frame d).size := by
    rw [hframe₁]
    exact (FrameBuffer.redrawn_plot hit hbefore).size_eq
  obtain ⟨d', hread, hframe'⟩ := hframe.readPixel_of_outside (d := d₁) (by rwa [hsize])
  refine ⟨d₁, d', hplot, hread, ?_, hframe'.trans hframe₁⟩
  -- The pixel is read before it is set, so that the read is what is refused.
  rw [plot_append hplot, plot, hread]

theorem wipe_of_outside (hframe : PixelHom frame) {before : List (Nat × Nat)} {stop : Nat × Nat}
    (hbefore : ∀ p ∈ before, (frame d).size.Contains p.1 p.2)
    (hstop : ¬ (frame d).size.Contains stop.1 stop.2) (after : List (Nat × Nat)) :
    ∃ d₁ d', wipe d before = (.ok (), d₁) ∧
      Display.setPixel d₁ stop.1 stop.2 false = (.error (.outOfBounds stop.1 stop.2), d') ∧
      wipe d (before ++ stop :: after) = (.error (.outOfBounds stop.1 stop.2), d') ∧
      frame d' = (wipe (frame d) before).2 := by
  obtain ⟨d₁, hwipe, hframe₁⟩ := hframe.wipe_of_inside hbefore
  have hsize : (frame d₁).size = (frame d).size := by
    rw [hframe₁]
    exact (FrameBuffer.redrawn_wipe hbefore).size_eq
  obtain ⟨d', hset, hframe'⟩ := hframe.setPixel_of_outside (d := d₁) (by rwa [hsize]) false
  refine ⟨d₁, d', hwipe, hset, ?_, hframe'.trans hframe₁⟩
  rw [wipe_append hwipe, wipe, hset]

end PixelHom

/-- An adapter that keeps its pixels in a framebuffer. Calls for pixels go there, whatever size it
reports, and to no other call the pixels give way. -/
structure KeepsFrame {D : Type} [Attended D] (frame : D → FrameBuffer) : Prop
    extends PixelHom frame where
  refresh : ∀ d, FrameBuffer.SameGrid (frame (Display.refresh d).2) (frame d)
  pollKey : ∀ d, FrameBuffer.SameGrid (frame (Display.pollKey d).2) (frame d)
  hold : ∀ key d, FrameBuffer.SameGrid (frame (Attended.hold key d)) (frame d)

theorem Bench.keepsFrame : KeepsFrame Bench.frame where
  readPixel _ _ _ := rfl
  setPixel _ _ _ _ := rfl
  refresh b := by
    show FrameBuffer.SameGrid (Bench.refresh b).2.frame b.frame
    unfold Bench.refresh
    split <;> exact ⟨rfl, rfl⟩
  pollKey _ := ⟨rfl, rfl⟩
  hold key _ := by cases key <;> exact ⟨rfl, rfl⟩

/-! ### The calls of the work -/

/-- The pixel that a call asks for. -/
def Call.asked? : Call → Option (Nat × Nat)
  | readPixel row col _ => some (row, col)
  | _ => none

namespace Recorder

variable {D : Type}

/-- The pixels that were asked for, in this order. -/
def asked (r : Recorder D) : List (Nat × Nat) :=
  r.calls.filterMap Call.asked?

/-- The refreshes that were asked for, with their answers. -/
def refreshes (r : Recorder D) : List Call :=
  r.calls.filter Call.isRefresh

variable [Display D] {r r' : Recorder D}

theorem asked_readPixel (r : Recorder D) (row col : Nat) :
    (Display.readPixel r row col).2.asked = r.asked ++ [(row, col)] :=
  List.filterMap_append

theorem asked_setPixel (r : Recorder D) (row col : Nat) (lit : Bool) :
    (Display.setPixel r row col lit).2.asked = r.asked :=
  List.filterMap_append.trans (List.append_nil _)

theorem asked_refresh (r : Recorder D) : (Display.refresh r).2.asked = r.asked :=
  List.filterMap_append.trans (List.append_nil _)

/-- Drawing asks for the pixels of its dots, in their order. -/
theorem asked_plot {dots : List Dot} {hit hit' : Bool} (h : plot r hit dots = (.ok (), hit', r')) :
    r'.asked = r.asked ++ dots.map Dot.place := by
  induction dots generalizing r hit with
  | nil =>
      cases h
      exact (List.append_nil _).symm
  | cons dot dots ih =>
      rw [plot] at h
      rcases hread : Display.readPixel r dot.row dot.col with ⟨_ | lit, r₁⟩
      all_goals rw [hread] at h
      · cases h
      · dsimp only at h
        rcases hset : Display.setPixel r₁ dot.row dot.col (lit ^^ dot.lit) with ⟨_ | _, r₂⟩
        all_goals rw [hset] at h
        · cases h
        · have hread₁ : r₁ = (Display.readPixel r dot.row dot.col).2 := by rw [hread]
          have hset₂ : r₂ = (Display.setPixel r₁ dot.row dot.col (lit ^^ dot.lit)).2 := by rw [hset]
          rw [ih h, hset₂, asked_setPixel, hread₁, asked_readPixel, List.append_assoc]
          rfl

theorem refreshes_readPixel (r : Recorder D) (row col : Nat) :
    (Display.readPixel r row col).2.refreshes = r.refreshes :=
  (List.filter_append _ _).trans (List.append_nil _)

theorem refreshes_setPixel (r : Recorder D) (row col : Nat) (lit : Bool) :
    (Display.setPixel r row col lit).2.refreshes = r.refreshes :=
  (List.filter_append _ _).trans (List.append_nil _)

theorem refreshes_refresh (r : Recorder D) :
    (Display.refresh r).2.refreshes = r.refreshes ++ [.refresh (Display.refresh r).1] :=
  List.filter_append _ _

/-- Work on pixels is not a refresh. -/
theorem refreshes_visits {size : DisplaySize} {answer : Except DisplayError Unit}
    (h : Visits size r answer r') : r'.refreshes = r.refreshes :=
  h.view_eq refreshes_readPixel refreshes_setPixel

end Recorder

/-! ### Work on an adapter -/

namespace FrameBuffer

/-- The grid after dots were drawn on it, these and no others, and what they report. -/
structure Toggled (fb : FrameBuffer) (dots : List Dot) (fb' : FrameBuffer) (report : UInt8) :
    Prop where
  lit : ∀ row col, fb'.lit row col = (fb.lit row col ^^ (Dot.hits dots row col).bodd)
  hit : (∃ row col, fb.Collides dots row col) → report = 1
  miss : (¬ ∃ row col, fb.Collides dots row col) → report = 0

/-- The grid after pixels were put out, these and no others. -/
structure PutOut (fb : FrameBuffer) (gone : Nat × Nat → Prop) (fb' : FrameBuffer) : Prop where
  dark : ∀ p, gone p → fb'.lit p.1 p.2 = false
  others : ∀ p, ¬ gone p → fb'.lit p.1 p.2 = fb.lit p.1 p.2

variable {fb fb' : FrameBuffer}

theorem toggled_plot {dots : List Dot} (h : ∀ dot ∈ dots, fb.size.Contains dot.row dot.col)
    (hsame : ∀ row col, fb'.lit row col = (plot fb false dots).2.2.lit row col) :
    Toggled fb dots fb' (plot fb false dots).2.1.toUInt8 := by
  have hhit := hit_plot false h
  simp only [Bool.false_eq_true, false_or] at hhit
  constructor
  case lit =>
    intro row col
    rw [hsame, lit_plot false h]
  case hit =>
    intro hcollides
    rw [hhit.2 hcollides]
    rfl
  case miss =>
    intro hnone
    rw [Bool.eq_false_iff.2 (mt hhit.1 hnone)]
    rfl

theorem putOut_wipe {pixels : List (Nat × Nat)} {gone : Nat × Nat → Prop}
    (h : ∀ p ∈ pixels, fb.size.Contains p.1 p.2) (hgone : ∀ p, p ∈ pixels ↔ gone p)
    (hsame : ∀ row col, fb'.lit row col = (wipe fb pixels).2.lit row col) :
    PutOut fb gone fb' where
  dark p hp := by
    rw [hsame, lit_wipe h, if_pos ((hgone p).2 hp)]
  others p hp := by
    rw [hsame, lit_wipe h, if_neg (mt (hgone p).1 hp)]

end FrameBuffer

namespace KeepsFrame

variable {D : Type} [Attended D] {frame : D → FrameBuffer} {d : D}

/-- The stored grid keeps its size. -/
theorem size_works (hframe : KeepsFrame frame) {size : DisplaySize}
    {answer : Except DisplayError Unit} {d' : D} (h : Works size d answer d') :
    (frame d').size = (frame d).size := by
  let stored (d : D) : DisplaySize := (frame d).size
  have hread (d : D) (row col : Nat) : stored (Display.readPixel d row col).2 = stored d :=
    congrArg (·.2.size) (hframe.readPixel d row col).symm
  have hset (d : D) (row col : Nat) (lit : Bool) :
      stored (Display.setPixel d row col lit).2 = stored d :=
    (congrArg (·.2.size) (hframe.setPixel d row col lit).symm).trans
      ((frame d).size_setPixel row col lit)
  have hrefresh (d : D) : stored (Display.refresh d).2 = stored d := (hframe.refresh d).size_eq
  show stored d' = stored d
  exact h.view_eq hread hset hrefresh

theorem pixelHom_recorder (hframe : KeepsFrame frame) :
    PixelHom fun r : Recorder D => frame r.inner where
  readPixel r := hframe.readPixel r.inner
  setPixel r := hframe.setPixel r.inner

theorem plotAndRefresh_of_inside (hframe : KeepsFrame frame) {dots : List Dot}
    (h : ∀ dot ∈ dots, (frame d).size.Contains dot.row dot.col) :
    let work := plotAndRefresh ({ inner := d } : Recorder D) dots
    FrameBuffer.Toggled (frame d) dots (frame work.2.2.inner) work.2.1.toUInt8 ∧
      work.2.2.asked = dots.map Dot.place ∧
      work.2.2.refreshes = [.refresh work.1] := by
  intro work
  obtain ⟨r, hplot, hgrid⟩ := hframe.pixelHom_recorder.plot_of_inside (d := { inner := d }) h false
  have hvisits := visits_plot ({ inner := d } : Recorder D) false h
  have hwork : work = _ := plotAndRefresh_of_ok hplot
  rw [hplot] at hvisits
  rw [hwork]
  refine ⟨FrameBuffer.toggled_plot h fun row col => ?_, ?_, ?_⟩
  · rw [← hgrid]
    exact (hframe.refresh r.inner).lit_eq row col
  · exact (Recorder.asked_refresh r).trans (Recorder.asked_plot hplot)
  · rw [Recorder.refreshes_refresh, Recorder.refreshes_visits hvisits]
    rfl

theorem plotAndRefresh_of_outside (hframe : KeepsFrame frame) {before : List Dot} {cell : Dot}
    (hbefore : ∀ dot ∈ before, (frame d).size.Contains dot.row dot.col)
    (hcell : ¬ (frame d).size.Contains cell.row cell.col) (after : List Dot) :
    let work := plotAndRefresh ({ inner := d } : Recorder D) (before ++ cell :: after)
    work.1 = .error (.outOfBounds cell.row cell.col) ∧
      FrameBuffer.Toggled (frame d) before (frame work.2.2.inner) work.2.1.toUInt8 ∧
      work.2.2.asked = before.map Dot.place ++ [cell.place] ∧
      work.2.2.refreshes = [] := by
  intro work
  obtain ⟨r, r', hbegun, hread, hplot, hgrid⟩ :=
    hframe.pixelHom_recorder.plot_of_outside (d := { inner := d }) hbefore hcell false after
  have hvisits := visits_plot ({ inner := d } : Recorder D) false hbefore
  have hwork : work = _ := plotAndRefresh_of_error hplot
  have hread' : r' = (Display.readPixel r cell.row cell.col).2 := by rw [hread]
  rw [hbegun] at hvisits
  rw [hwork]
  refine ⟨rfl, FrameBuffer.toggled_plot hbefore fun row col => ?_, ?_, ?_⟩
  · rw [← hgrid]
  · rw [hread', Recorder.asked_readPixel, Recorder.asked_plot hbegun]
    rfl
  · rw [hread', Recorder.refreshes_readPixel, Recorder.refreshes_visits hvisits]
    rfl

theorem wipeAndRefresh_of_inside (hframe : KeepsFrame frame) {pixels : List (Nat × Nat)}
    {gone : Nat × Nat → Prop} (h : ∀ p ∈ pixels, (frame d).size.Contains p.1 p.2)
    (hgone : ∀ p, p ∈ pixels ↔ gone p) :
    let work := wipeAndRefresh ({ inner := d } : Recorder D) pixels
    FrameBuffer.PutOut (frame d) gone (frame work.2.inner) ∧
      work.2.refreshes = [.refresh work.1] := by
  intro work
  obtain ⟨r, hwipe, hgrid⟩ := hframe.pixelHom_recorder.wipe_of_inside (d := { inner := d }) h
  have hvisits := visits_wipe ({ inner := d } : Recorder D) h
  have hwork : work = _ := wipeAndRefresh_of_ok hwipe
  rw [hwipe] at hvisits
  rw [hwork]
  refine ⟨FrameBuffer.putOut_wipe h hgone fun row col => ?_, ?_⟩
  · rw [← hgrid]
    exact (hframe.refresh r.inner).lit_eq row col
  · rw [Recorder.refreshes_refresh, Recorder.refreshes_visits hvisits]
    rfl

theorem wipeAndRefresh_of_outside (hframe : KeepsFrame frame) {before : List (Nat × Nat)}
    {stop : Nat × Nat} {gone : Nat × Nat → Prop}
    (hbefore : ∀ p ∈ before, (frame d).size.Contains p.1 p.2)
    (hstop : ¬ (frame d).size.Contains stop.1 stop.2) (hgone : ∀ p, p ∈ before ↔ gone p)
    (after : List (Nat × Nat)) :
    let work := wipeAndRefresh ({ inner := d } : Recorder D) (before ++ stop :: after)
    work.1 = .error (.outOfBounds stop.1 stop.2) ∧
      FrameBuffer.PutOut (frame d) gone (frame work.2.inner) ∧
      work.2.refreshes = [] := by
  intro work
  obtain ⟨r, r', hbegun, hset, hwipe, hgrid⟩ :=
    hframe.pixelHom_recorder.wipe_of_outside (d := { inner := d }) hbefore hstop after
  have hvisits := visits_wipe ({ inner := d } : Recorder D) hbefore
  have hwork : work = _ := wipeAndRefresh_of_error hwipe
  have hset' : r' = (Display.setPixel r stop.1 stop.2 false).2 := by rw [hset]
  rw [hbegun] at hvisits
  rw [hwork]
  refine ⟨rfl, FrameBuffer.putOut_wipe hbefore hgone fun row col => ?_, ?_⟩
  · rw [← hgrid]
  · rw [hset', Recorder.refreshes_setPixel, Recorder.refreshes_visits hvisits]
    rfl

end KeepsFrame

end Chip8
