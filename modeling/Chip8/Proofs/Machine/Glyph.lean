import Chip8.Proofs.Display.Collision
import Chip8.Proofs.Machine.Bounds
import Chip8.Proofs.Machine.Image
import Chip8.Proofs.Machine.Sprite
import Mathlib.Data.Nat.ModEq

/-!
From the bytes of a font to pixels. `FX29` points I at the glyph of a digit, and where memory is as
it was built the five bytes there are those of the font, zeros behind its end. `DXYN` draws them row
by row.

A sprite that is no larger than the grid does not overlap itself, wherever it is drawn and however
it is wrapped (`Sprite.nodup_dots`). So on a blank grid each of its dots shows as it is, nothing
else is lit, and there is no collision.
-/

namespace Chip8

theorem add_mod_inj {base size i j : Nat} (hi : i < size) (hj : j < size)
    (h : (base + i) % size = (base + j) % size) : i = j := by
  have hmod : i % size = j % size := Nat.ModEq.add_left_cancel' base h
  rwa [Nat.mod_eq_of_lt hi, Nat.mod_eq_of_lt hj] at hmod

/-- A row is counted around the edge, unless it falls below the grid and is dropped there. -/
theorem Compatibility.spriteRow_eq_some_iff {c : Compatibility} {base offset height row : Nat} :
    c.spriteRow base offset height = some row ↔
      (c.vertical = .wrap ∨ base + offset < height) ∧ row = (base + offset) % height := by
  unfold spriteRow
  cases c.vertical with
  | wrap => simp [eq_comm]
  | skip =>
      dsimp only
      split_ifs with hlt
      · simp [hlt, Nat.mod_eq_of_lt hlt, eq_comm]
      · simp [hlt]

/-- Rows of a sprite that is not higher than the grid fall on different rows. -/
theorem Compatibility.spriteRow_inj {c : Compatibility} {base height i j row : Nat}
    (hi : i < height) (hj : j < height) (h : c.spriteRow base i height = some row)
    (h' : c.spriteRow base j height = some row) : i = j := by
  obtain ⟨-, hrow⟩ := spriteRow_eq_some_iff.1 h
  obtain ⟨-, hrow'⟩ := spriteRow_eq_some_iff.1 h'
  exact add_mod_inj hi hj (hrow.symm.trans hrow')

namespace Sprite

variable {s : Sprite} {compat : Compatibility} {size : DisplaySize}

/-- The dots of row `k` of a sprite; a row below the grid has none. -/
def rowDots (s : Sprite) (compat : Compatibility) (size : DisplaySize) (k : Nat) : List Dot :=
  match compat.spriteRow (s.y.toNat % size.height) k size.height with
  | none => []
  | some row => Dot.ofByte (s.bytes.getD k 0) row (s.x.toNat % size.width) size.width

theorem mem_rowDots {k : Nat} {dot : Dot} :
    dot ∈ s.rowDots compat size k ↔
      compat.spriteRow (s.y.toNat % size.height) k size.height = some dot.row ∧
        ∃ bit < 8, dot.col = (s.x.toNat % size.width + bit) % size.width ∧
          dot.lit = (s.bytes.getD k 0).toNat.testBit (7 - bit) := by
  obtain ⟨row, col, lit⟩ := dot
  unfold rowDots
  cases compat.spriteRow (s.y.toNat % size.height) k size.height with
  | none => simp
  | some top =>
      simp only [Dot.ofByte, List.mem_map, List.mem_range, Dot.mk.injEq, Option.some.injEq]
      constructor
      · rintro ⟨bit, hbit, rfl, rfl, rfl⟩
        exact ⟨rfl, bit, hbit, rfl, rfl⟩
      · rintro ⟨rfl, bit, hbit, rfl, rfl⟩
        exact ⟨bit, hbit, rfl, rfl, rfl⟩

/-- The dots of a sprite, row by row and bit by bit. -/
theorem mem_dots {dot : Dot} :
    dot ∈ s.dots compat size ↔ ∃ k < s.bytes.length, dot ∈ s.rowDots compat size k := by
  show dot ∈ (List.range s.bytes.length).flatMap (s.rowDots compat size) ↔ _
  rw [List.mem_flatMap]
  simp only [List.mem_range]

/-- A sprite that is no larger than the grid does not overlap itself. -/
theorem nodup_dots (hwidth : 8 ≤ size.width) (hheight : s.bytes.length ≤ size.height) :
    ((s.dots compat size).map Dot.place).Nodup := by
  show (((List.range s.bytes.length).flatMap (s.rowDots compat size)).map Dot.place).Nodup
  rw [List.map_flatMap, List.nodup_flatMap]
  constructor
  · intro k _
    unfold rowDots
    cases compat.spriteRow (s.y.toNat % size.height) k size.height with
    | none => exact List.nodup_nil
    | some row =>
        simp only [Dot.ofByte, List.map_map]
        refine List.Nodup.map_on (fun i hi j hj heq => ?_) List.nodup_range
        rw [List.mem_range] at hi hj
        exact add_mod_inj (by omega) (by omega) (congrArg Prod.snd heq)
  · -- A place in two rows of the sprite would lie in one row of the grid.
    refine List.nodup_range.imp_of_mem fun {i j} hi hj hne p hpi hpj => ?_
    rw [List.mem_range] at hi hj
    obtain ⟨dot, hdot, rfl⟩ := List.mem_map.1 hpi
    obtain ⟨other, hother, hplace⟩ := List.mem_map.1 hpj
    have hrow := (mem_rowDots.1 hother).1
    rw [(Prod.mk.inj hplace).1] at hrow
    exact hne (Compatibility.spriteRow_inj (by omega) (by omega) (mem_rowDots.1 hdot).1 hrow)

end Sprite

namespace Machine

section Sprite

variable {D : Type} (m : Machine D) (x y : Nibble)

theorem length_sprite (n : Nibble) : (m.sprite x y n).bytes.length = n := by
  simp [sprite]

theorem getD_sprite {n : Nibble} {k : Nat} (hk : k < n) :
    (m.sprite x y n).bytes.getD k 0 = m.memory.read (m.index + UInt16.ofNat k) := by
  simp [sprite, hk]

end Sprite

/-! ### A blank grid -/

section Blank

variable {m : Machine FrameBuffer}

theorem FillsFrame.flag_draw (h : m.FillsFrame) (x y n : Nibble) :
    (m.execute (.draw x y n)).2.reg flag =
      (plot m.display false ((m.sprite x y n).dots m.compat m.size)).2.1.toUInt8 := by
  rw [Machine.execute, draw_eq, spriteDots_eq_dots, h.plotAndRefresh_eq, finish_snd]
  exact reg_setReg_self m flag _

/-- On a blank grid that it fits on, a sprite shows as it is, and nothing else does. -/
theorem FillsFrame.draw_blank (h : m.FillsFrame) (hblank : ∀ row col, m.display.lit row col = false)
    {x y n : Nibble} (hwidth : 8 ≤ m.size.width) (hheight : n ≤ m.size.height) :
    (m.execute (.draw x y n)).1 = .ok () ∧ (m.execute (.draw x y n)).2.reg flag = 0 ∧
      (∀ dot ∈ (m.sprite x y n).dots m.compat m.size,
        (m.execute (.draw x y n)).2.display.lit dot.row dot.col = dot.lit) ∧
      ∀ row col, (m.execute (.draw x y n)).2.display.lit row col = true →
        ∃ dot ∈ (m.sprite x y n).dots m.compat m.size, dot.place = (row, col) := by
  have hnodup : (((m.sprite x y n).dots m.compat m.size).map Dot.place).Nodup :=
    Sprite.nodup_dots hwidth (by rwa [length_sprite])
  obtain ⟨hok, -, hlit⟩ := h.execute_draw x y n
  refine ⟨hok, ?_, fun dot hdot => ?_, fun row col hrow => ?_⟩
  · have hquiet : (plot m.display false ((m.sprite x y n).dots m.compat m.size)).2.1 = false := by
      rw [Bool.eq_false_iff, ne_eq, FrameBuffer.hit_plot false (h.contains_of_mem_dots _)]
      rintro (hfalse | ⟨row, col, hcollides⟩)
      · cases hfalse
      · have hone := Dot.hits_le_one hnodup row col
        rw [FrameBuffer.Collides, hblank, Bool.toNat_false] at hcollides
        omega
    rw [h.flag_draw, hquiet]
    rfl
  · rw [hlit, hblank, Bool.false_xor, Dot.bodd_hits_of_nodup hnodup hdot]
  · rw [hlit, hblank, Bool.false_xor] at hrow
    exact Dot.exists_of_bodd_hits hrow

end Blank

/-! ### A glyph of the font -/

/-- A step executes the instruction after counting ticks and moving on. -/
theorem stepAt_of_some {D : Type} [Display D] {m : Machine D} {i : Instruction}
    (h : m.instruction? = some i) (now : Nat) :
    ∃ gate timers, m.stepAt now = ({ m with gate, timers }.advance).execute i := by
  obtain ⟨gate, timers, hgate⟩ := m.stepAt_eq now
  exact ⟨gate, timers, hgate.trans (step_of_some (m := { m with gate, timers }) h)⟩

/-- Where memory still has the font as it was built, I leads to the bytes of a digit. -/
theorem read_glyph {b : Blueprint} (hfont : b.font.length ≤ Font.maxSize) {memory : Memory}
    (hmemory : ∀ addr : UInt16, 0x50 ≤ addr.toNat → addr.toNat < 0xA0 →
      memory.read addr = b.image.read addr) (digit : UInt8) {r : Nat} (hr : r < 5) :
    memory.read (fontAddr + 5 * (digit.toUInt16 &&& 0xF) + UInt16.ofNat r) =
      b.font.getD (5 * (digit.toNat % 16) + r) 0 := by
  have hdigit := Nat.mod_lt digit.toNat (show 0 < 16 by decide)
  have haddr : (fontAddr + 5 * (digit.toUInt16 &&& 0xF) + UInt16.ofNat r).toNat =
      0x50 + (5 * (digit.toNat % 16) + r) := by
    rw [UInt16.toNat_add, toNat_glyphAddr, UInt16.toNat_ofNat']
    omega
  have hlow : (0x50 + (5 * (digit.toNat % 16) + r)) % 4096 =
      0x50 + (5 * (digit.toNat % 16) + r) := Nat.mod_eq_of_lt (by omega)
  rw [hmemory _ (by omega) (by omega), Blueprint.read_image hfont, haddr, hlow,
    if_neg (by omega), if_pos (by omega), Nat.add_sub_cancel_left]

/-- The two steps that draw a digit, on any grid that is blank and has room for it: they end well,
the bits of the font's bytes become the pixels, nothing else is lit, and there is no collision. -/
theorem draw_glyph {b : Blueprint} {around : Blueprint.Surroundings} {frame : FrameBuffer}
    {built m : Machine FrameBuffer} (hbuild : b.build around frame = .ok built)
    (hsize : m.display.size = m.size) (hwidth : 8 ≤ m.size.width) (hheight : 5 ≤ m.size.height)
    (hblank : ∀ row col, m.display.lit row col = false)
    (hmemory : ∀ addr : UInt16, 0x50 ≤ addr.toNat → addr.toNat < 0xA0 →
      m.memory.read addr = built.memory.read addr)
    {x y z : Nibble} (now later : Nat) (hload : m.instruction? = some (.loadGlyph x))
    (hdraw : (m.stepAt now).2.instruction? = some (.draw y z 5)) :
    let drawn := (m.stepAt now).2.stepAt later
    let kept (r : Nat) :=
      m.compat.vertical = .wrap ∨ (m.reg z).toNat % m.size.height + r < m.size.height
    let row (r : Nat) := ((m.reg z).toNat % m.size.height + r) % m.size.height
    let col (c : Nat) := ((m.reg y).toNat + c) % m.size.width
    (m.stepAt now).1 = .ok () ∧ drawn.1 = .ok () ∧ drawn.2.reg flag = 0 ∧
      (∀ r < 5, ∀ c < 8, kept r → drawn.2.display.lit (row r) (col c) =
        (b.font.getD (5 * ((m.reg x).toNat % 16) + r) 0).toNat.testBit (7 - c)) ∧
      ∀ i j, drawn.2.display.lit i j = true →
        ∃ r < 5, ∃ c < 8, kept r ∧ i = row r ∧ j = col c := by
  intro drawn kept row col
  obtain ⟨hfits, rfl⟩ := Blueprint.build_eq_ok_iff.1 hbuild
  obtain ⟨gate, timers, hfirst⟩ := stepAt_of_some hload now
  obtain ⟨gate', timers', hsecond⟩ := stepAt_of_some hdraw later
  -- What is drawn on is the same grid, with the same registers, and I at the glyph.
  let aimed : Machine FrameBuffer := { m with
    gate := gate'
    timers := timers'
    pc := address (address (m.pc + 2) + 2)
    index := fontAddr + 5 * ((m.reg x).toUInt16 &&& 0xF) }
  have hdrawn : drawn = aimed.execute (.draw y z 5) := by
    show (m.stepAt now).2.stepAt later = _
    rw [hsecond, hfirst]
    rfl
  have hfills : aimed.FillsFrame :=
    ⟨hsize, Nat.lt_of_lt_of_le (by decide) hwidth, Nat.lt_of_lt_of_le (by decide) hheight⟩
  have hbyte {r : Nat} (hr : r < 5) : (aimed.sprite y z 5).bytes.getD r 0 =
      b.font.getD (5 * ((m.reg x).toNat % 16) + r) 0 := by
    rw [getD_sprite aimed y z hr]
    exact read_glyph hfits.font_le hmemory (m.reg x) hr
  have hlength : (aimed.sprite y z 5).bytes.length = 5 := length_sprite aimed y z 5
  have hroom : (5 : Nibble) ≤ aimed.size.height := hheight
  obtain ⟨hok, hflag, hdots, honly⟩ := hfills.draw_blank (x := y) (y := z) hblank hwidth hroom
  rw [hdrawn]
  refine ⟨by rw [hfirst]; rfl, hok, hflag, fun r hr c hc hkept => ?_, fun i j hij => ?_⟩
  · let dot : Dot :=
      ⟨row r, col c, ((aimed.sprite y z 5).bytes.getD r 0).toNat.testBit (7 - c)⟩
    have hdot : dot ∈ (aimed.sprite y z 5).rowDots aimed.compat aimed.size r := by
      refine Sprite.mem_rowDots.2 ⟨?_, c, hc, (Nat.mod_add_mod _ _ _).symm, rfl⟩
      exact Compatibility.spriteRow_eq_some_iff.2 ⟨hkept, rfl⟩
    rw [← hbyte hr]
    exact hdots dot (Sprite.mem_dots.2 ⟨r, hlength.symm ▸ hr, hdot⟩)
  · obtain ⟨dot, hdot, hplace⟩ := honly i j hij
    obtain ⟨rfl, rfl⟩ := Prod.mk.inj hplace
    obtain ⟨r, hr, hdot⟩ := Sprite.mem_dots.1 hdot
    obtain ⟨hrow, c, hc, hcol, -⟩ := Sprite.mem_rowDots.1 hdot
    obtain ⟨hkept, hrow⟩ := Compatibility.spriteRow_eq_some_iff.1 hrow
    exact ⟨r, hlength ▸ hr, c, hc, hkept, hrow, hcol.trans (Nat.mod_add_mod _ _ _)⟩

/-- A font with a second glyph of two rows, and the program that draws a digit. -/
def shortFont : Blueprint where
  font := [0, 0, 0, 0, 0, 0x81, 0x3C]
  program := [0xF0, 0x29, 0xD1, 0x25]
  compat := { vertical := .wrap }

/-- The digit 1, from 11, in the lower right corner of a small grid. Its first row goes around the
right edge, and its third, for which the font has no byte, around the lower one. -/
theorem draw_glyph_corner :
    let frame := FrameBuffer.new ⟨8, 5⟩
    let built := shortFont.machine {} frame ⟨8, 5⟩
    let m := ((built.setReg 0 0x11).setReg 1 6).setReg 2 3
    let drawn := (m.stepAt 0).2.stepAt 1
    shortFont.build {} frame = .ok built ∧ m.instruction? = some (.loadGlyph 0) ∧
      (m.stepAt 0).2.instruction? = some (.draw 1 2 5) ∧
      drawn.1 = .ok () ∧ drawn.2.reg flag = 0 ∧
      drawn.2.display.lit 3 6 = true ∧ drawn.2.display.lit 3 5 = true ∧
      drawn.2.display.lit 3 7 = false ∧ drawn.2.display.lit 0 6 = false := by
  intro frame built m drawn
  have hbuild : shortFont.build {} frame = .ok built := rfl
  have hevaluated : m.instruction? = some (.loadGlyph 0) ∧
      (m.stepAt 0).2.instruction? = some (.draw 1 2 5) ∧
      m.reg 0 = 0x11 ∧ m.reg 1 = 6 ∧ m.reg 2 = 3 := by
    decide +kernel
  obtain ⟨hload, hdraw, hdigit, hcol, hrow⟩ := hevaluated
  have hblank (row col : Nat) : m.display.lit row col = false :=
    FrameBuffer.lit_new ⟨8, 5⟩ .white .black row col
  obtain ⟨-, hok, hflag, hbits, -⟩ := draw_glyph hbuild rfl (by decide) (by decide) hblank
    (fun _ _ _ => rfl) 0 1 hload hdraw
  have hsize : m.size = ⟨8, 5⟩ := rfl
  rw [hdigit, hcol, hrow, hsize] at hbits
  exact ⟨hbuild, hload, hdraw, hok, hflag, hbits 0 (by decide) 0 (by decide) (.inl rfl),
    hbits 0 (by decide) 7 (by decide) (.inl rfl), hbits 0 (by decide) 1 (by decide) (.inl rfl),
    hbits 2 (by decide) 0 (by decide) (.inl rfl)⟩

end Machine

end Chip8
