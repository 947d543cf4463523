import Chip8.Proofs.Display.History
import Chip8.Proofs.Machine.Glyph

/-!
`DXYN`, cell by cell. A sprite goes around the right edge of the grid and, if the policy wraps rows,
around the lower one. On a grid that is narrower than eight columns or lower than the sprite it
overlaps itself, so that a cell may be toggled several times in one drawing. What counts for a cell is
how many of the lit bits fall on it (`overlap`): an odd number flips it, and it reports a collision if
it is hit after it was lit, or hit twice.

The step is taken with the clock. The gate counts its ticks in it as in any other; what the
instruction itself leaves alone is told by `OnlyDraws`.
-/

namespace Chip8

theorem Dot.hits_append (dots more : List Dot) (row col : Nat) :
    hits (dots ++ more) row col = hits dots row col + hits more row col :=
  List.countP_append

namespace FrameBuffer

theorem refreshes_setPixel (fb : FrameBuffer) (row col : Nat) (v : Bool) :
    (fb.setPixel row col v).2.refreshes = fb.refreshes := by
  unfold setPixel
  split <;> rfl

theorem refreshes_plot {fb : FrameBuffer} (hit : Bool) {dots : List Dot}
    (h : ∀ dot ∈ dots, fb.size.Contains dot.row dot.col) :
    (plot fb hit dots).2.2.refreshes = fb.refreshes :=
  (visits_plot fb hit h).view_eq (fun _ _ _ => rfl) refreshes_setPixel

/-- A pixel is put out if it is hit twice, or is hit after it was lit. -/
theorem collides_iff {fb : FrameBuffer} {dots : List Dot} {row col : Nat} :
    fb.Collides dots row col ↔
      2 ≤ Dot.hits dots row col ∨ fb.lit row col = true ∧ 1 ≤ Dot.hits dots row col := by
  unfold Collides
  cases fb.lit row col
  · simp
  · simp
    omega

end FrameBuffer

namespace Machine

/-! ### The cells of a sprite -/

section Cells

variable {D : Type} (m : Machine D) (x y n : Nibble)

/-- Whether row `k` of a sprite is drawn at all. -/
def keepsRow (k : Nat) : Bool :=
  m.compat.vertical = .wrap ∨ (m.reg y).toNat % m.size.height + k < m.size.height

/-- The cell that bit `bit` of row `k` falls on, bits being counted from the left. -/
def cell (k bit : Nat) : Nat × Nat :=
  (((m.reg y).toNat % m.size.height + k) % m.size.height,
    ((m.reg x).toNat % m.size.width + bit) % m.size.width)

/-- Bit `bit` of row `k` of the sprite at I. -/
def spriteBit (k bit : Nat) : Bool :=
  (m.memory.read (m.index + UInt16.ofNat k)).toNat.testBit (7 - bit)

/-- How many bits of the sprite are lit and fall on a cell. -/
def overlap (row col : Nat) : Nat :=
  ((Finset.range n ×ˢ Finset.range 8).filter fun p : Nat × Nat =>
    m.keepsRow y p.1 = true ∧ m.cell x y p.1 p.2 = (row, col) ∧
      m.spriteBit p.1 p.2 = true).card

/-- The cells that are visited, in this order, row by row and bit by bit; a row that is dropped is
left out. -/
def visited : List Dot :=
  ((List.range n).filter (m.keepsRow y)).flatMap fun k =>
    (List.range 8).map fun bit =>
      ⟨(m.cell x y k bit).1, (m.cell x y k bit).2, m.spriteBit k bit⟩

theorem spriteRow_eq (k : Nat) :
    m.compat.spriteRow ((m.reg y).toNat % m.size.height) k m.size.height =
      if m.keepsRow y k then some (((m.reg y).toNat % m.size.height + k) % m.size.height)
      else none := by
  unfold keepsRow
  split_ifs with h
  · exact Compatibility.spriteRow_eq_some_iff.2 ⟨of_decide_eq_true h, rfl⟩
  · refine Option.eq_none_iff_forall_ne_some.2 fun row hrow => h (decide_eq_true ?_)
    exact (Compatibility.spriteRow_eq_some_iff.1 hrow).1

theorem spriteDots_eq_visited : m.spriteDots x y n = m.visited x y n := by
  unfold spriteDots visited
  generalize List.range n = rows
  induction rows with
  | nil => rfl
  | cons k rows ih =>
      rw [List.flatMap_cons, ih, spriteRow_eq, List.filter_cons]
      split_ifs with hkept <;> rfl

/-- Visited as often as bits fall on it, a cell is hit by the lit ones. -/
theorem hits_visited (row col : Nat) :
    Dot.hits (m.visited x y n) row col = m.overlap x y n row col := by
  have hpairs : m.overlap x y n row col =
      (List.range n ×ˢ List.range 8).countP fun p =>
        m.keepsRow y p.1 ∧ m.cell x y p.1 p.2 = (row, col) ∧ m.spriteBit p.1 p.2 := by
    rw [← FrameBuffer.card_filter_range_product]
    simp only [decide_eq_true_eq]
    rfl
  rw [hpairs]
  unfold visited
  generalize List.range n = rows
  induction rows with
  | nil => rfl
  | cons k rows ih =>
      rw [List.product_cons, List.countP_append, ← ih, List.filter_cons, List.countP_map]
      cases hkept : m.keepsRow y k with
      | true =>
          rw [if_pos rfl, List.flatMap_cons, Dot.hits_append, Dot.hits, List.countP_map]
          congr 1
          refine List.countP_congr fun bit _ => ?_
          simp only [Function.comp_apply, Bool.and_eq_true, beq_iff_eq, Prod.ext_iff,
            Bool.decide_and, Bool.decide_eq_true, hkept, Bool.true_and, decide_eq_true_eq]
          tauto
      | false =>
          rw [if_neg Bool.false_ne_true, List.countP_eq_zero.2 fun bit _ => by simp [hkept],
            Nat.zero_add]

end Cells

/-! ### A step that draws -/

section Step

variable {D : Type} [Display D] {m : Machine D} {i : Instruction}

/-- What drawing and clearing leave alone: everything but the display and VF. -/
structure OnlyDraws (m : Machine D) (now : Nat) (m' : Machine D) : Prop where
  pc : m'.pc = address (m.pc + 2)
  regs : ∀ k, k ≠ flag → m'.reg k = m.reg k
  index : m'.index = m.index
  memory : m'.memory = m.memory
  stack : m'.stack = m.stack
  /-- The timers are as the gate leaves them, and without one as they were. -/
  timers : m'.timers = (m.tickUntil now).timers
  ungated : m.gate = none → m'.timers = m.timers

theorem onlyDraws_stepAt (h : m.instruction? = some i) (hi : i.draws) (now : Nat) :
    OnlyDraws m now (m.stepAt now).2 := by
  have hregs (k : Nibble) (hk : k ≠ flag) : i.mayWrite k = false := by
    cases i with
    | clear => rfl
    | draw => simpa [Instruction.mayWrite, Instruction.target?, Instruction.reports] using hk
    | _ => cases hi
  have hungated (hgate : m.gate = none) : (m.tickUntil now).timers = m.timers := by
    rw [tickUntil, hgate]
  rw [stepAt_eq_execute h]
  cases i with
  | clear | draw =>
      constructor
      case pc => rw [pc_execute, pcAfter_of_not_jumps _ rfl]; rfl
      case regs => exact fun k hk => reg_execute_of_not_mayWrite _ (hregs k hk)
      case index => rw [index_execute]; rfl
      case memory => rw [memory_execute]; rfl
      case stack => rw [stack_execute]; rfl
      case timers => rw [timers_execute]; rfl
      case ungated => rw [timers_execute]; exact hungated
  | _ => cases hi

end Step

/-! ### On a framebuffer -/

section FrameBuffer

variable {m : Machine FrameBuffer}

theorem FillsFrame.act (h : m.FillsFrame) (a : Act) : (m.act a).FillsFrame := by
  cases a with
  | step now =>
      obtain ⟨gate, timers, hgate⟩ := m.stepAt_eq now
      show (m.stepAt now).2.FillsFrame
      rw [hgate]
      cases hi : m.instruction? with
      | none =>
          rw [step_of_none (m := { m with gate, timers }) hi]
          exact { h with }
      | some i =>
          rw [step_of_some (m := { m with gate, timers }) hi]
          have hadvanced : ({ m with gate, timers } : Machine FrameBuffer).advance.FillsFrame :=
            { h with }
          exact hadvanced.execute i
  | tick => exact { h with }
  | hold key => cases key <;> exact { h with }

/-- A machine that was built around a framebuffer fills it, whatever was done to it since. -/
theorem fillsFrame_play {b : Blueprint} {around : Blueprint.Surroundings} {fb : FrameBuffer}
    (h : b.build around fb = .ok m) (acts : List Act) : (m.play acts).FillsFrame := by
  obtain ⟨hfits, rfl⟩ := Blueprint.build_eq_ok_iff.1 h
  exact play_induction (fun _ a ih => ih.act a) ⟨rfl, hfits.width_pos, hfits.height_pos⟩ acts

theorem FillsFrame.refreshes_draw (h : m.FillsFrame) (x y n : Nibble) :
    (m.execute (.draw x y n)).2.display.refreshes = m.display.refreshes + 1 := by
  rw [Machine.execute, draw_eq, spriteDots_eq_dots, h.plotAndRefresh_eq, finish_snd]
  exact congrArg (· + 1) (FrameBuffer.refreshes_plot false (h.contains_of_mem_dots _))

/-- Only cells of the grid are hit. -/
theorem contains_of_overlap_pos (hwidth : 0 < m.size.width) (hheight : 0 < m.size.height)
    {x y n : Nibble} {row col : Nat} (h : 0 < m.overlap x y n row col) :
    m.size.Contains row col := by
  rw [← hits_visited, Dot.hits_pos_iff] at h
  obtain ⟨dot, hdot, -, hplace⟩ := h
  obtain ⟨rfl, rfl⟩ := Prod.mk.inj hplace
  rw [← spriteDots_eq_visited, spriteDots_eq_dots] at hdot
  exact Sprite.contains_of_mem_dots hwidth hheight hdot

/-- `DXYN` on a framebuffer, in any run and on a grid of any size. It ends well and asks for one
refresh; every cell is flipped as often as it is hit; VF says whether a cell was hit after it was
lit, or hit twice; and nothing else is changed. -/
theorem draw_by_overlap {b : Blueprint} {around : Blueprint.Surroundings} {fb : FrameBuffer}
    {built : Machine FrameBuffer} (hbuild : b.build around fb = .ok built) (acts : List Act)
    (now : Nat) {x y n : Nibble}
    (hdraw : (built.play acts).instruction? = some (.draw x y n)) :
    let m := built.play acts
    let drawn := m.stepAt now
    let collision := ∃ row col, fb.size.Contains row col ∧
      (2 ≤ m.overlap x y n row col ∨
        m.display.lit row col = true ∧ 1 ≤ m.overlap x y n row col)
    m.size = fb.size ∧ drawn.1 = .ok () ∧
      (∀ row col, drawn.2.display.lit row col =
        (m.display.lit row col ^^ (m.overlap x y n row col).bodd)) ∧
      (collision → drawn.2.reg flag = 1) ∧ (¬ collision → drawn.2.reg flag = 0) ∧
      drawn.2.display.refreshes = m.display.refreshes + 1 ∧ OnlyDraws m now drawn.2 := by
  intro m drawn collision
  have hsize : m.size = fb.size := by
    obtain ⟨-, rfl⟩ := Blueprint.build_eq_ok_iff.1 hbuild
    exact size_play _ acts
  have hfills : m.FillsFrame := fillsFrame_play hbuild acts
  let aimed := m.passed now
  have hdrawn : drawn = aimed.execute (.draw x y n) := stepAt_eq_execute hdraw now
  have haimed : aimed.FillsFrame := { hfills with }
  have hdots : (aimed.sprite x y n).dots aimed.compat aimed.size = m.visited x y n := by
    rw [← spriteDots_eq_dots]
    exact m.spriteDots_eq_visited x y n
  have hgrid : ∀ dot ∈ m.visited x y n, m.display.size.Contains dot.row dot.col := by
    rw [← hdots]
    exact haimed.contains_of_mem_dots _
  obtain ⟨hok, -, hlit⟩ := haimed.execute_draw x y n
  have hflag : drawn.2.reg flag =
      (plot m.display false (m.visited x y n)).2.1.toUInt8 := by
    rw [hdrawn, haimed.flag_draw, hdots]
    rfl
  have hcollision : (plot m.display false (m.visited x y n)).2.1 = true ↔ collision := by
    rw [FrameBuffer.hit_plot false hgrid]
    simp only [Bool.false_eq_true, false_or, FrameBuffer.collides_iff, hits_visited]
    constructor
    · rintro ⟨row, col, hmeet⟩
      have hpos : 0 < m.overlap x y n row col := by omega
      refine ⟨row, col, ?_, hmeet⟩
      rw [← hsize]
      exact contains_of_overlap_pos hfills.width_pos hfills.height_pos hpos
    · rintro ⟨row, col, -, hmeet⟩
      exact ⟨row, col, hmeet⟩
  refine ⟨hsize, ?_, fun row col => ?_, fun h => ?_, fun h => ?_, ?_,
    onlyDraws_stepAt hdraw rfl now⟩
  · rw [hdrawn, hok]
  · rw [hdrawn, hlit, hdots, hits_visited]
    rfl
  · rw [hflag, hcollision.2 h]
    rfl
  · rw [hflag, Bool.eq_false_iff.2 fun hhit => h (hcollision.1 hhit)]
    rfl
  · rw [hdrawn, haimed.refreshes_draw]
    rfl

/-- Draws three rows at a column that VF holds, with the clock on. -/
def drawsAtFlag : Blueprint where
  program := [0x6F, 0x05, 0xA2, 0x06, 0xDF, 0x13, 0xFF, 0x81, 0x18]
  compat := { vertical := .wrap }

/-- On a grid of three columns and two rows. The first row goes around nearly three times, and the
third falls on the first; a tick comes due in the step. -/
theorem draw_by_overlap_narrow :
    let frame := FrameBuffer.new ⟨3, 2⟩
    let built := drawsAtFlag.machine {} frame ⟨3, 2⟩
    let m := built.play [.step 0, .tick, .step 1]
    let drawn := m.stepAt 20000000
    drawsAtFlag.build {} frame = .ok built ∧ m.instruction? = some (.draw 15 1 3) ∧
      m.overlap 15 1 3 0 2 = 4 ∧ m.overlap 15 1 3 1 0 = 1 ∧ drawn.1 = .ok () ∧
      drawn.2.display.lit 0 2 = false ∧ drawn.2.display.lit 1 0 = true ∧
      drawn.2.reg flag = 1 ∧ drawn.2.display.refreshes = 1 ∧
      drawn.2.pc = 0x206 ∧ drawn.2.timers = ⟨253, 253⟩ := by
  intro frame built m drawn
  have hbuild : drawsAtFlag.build {} frame = .ok built := rfl
  have hevaluated : m.instruction? = some (.draw 15 1 3) ∧
      m.overlap 15 1 3 0 2 = 4 ∧ m.overlap 15 1 3 1 0 = 1 ∧
      m.display.lit 0 2 = false ∧ m.display.lit 1 0 = false ∧ m.display.refreshes = 0 ∧
      m.pc = 0x204 ∧ (m.tickUntil 20000000).timers = ⟨253, 253⟩ := by
    decide +kernel
  obtain ⟨hdraw, htwice, honce, hfirst, hsecond, hrefreshes, hpc, htimers⟩ := hevaluated
  obtain ⟨-, hok, hlit, hflag, -, hrefresh, honly⟩ :=
    draw_by_overlap hbuild [.step 0, .tick, .step 1] 20000000 hdraw
  refine ⟨hbuild, hdraw, htwice, honce, hok, ?_, ?_, hflag ⟨0, 2, by decide, .inl ?_⟩, ?_, ?_, ?_⟩
  · rw [hlit, hfirst, htwice]
    rfl
  · rw [hlit, hsecond, honce]
    rfl
  · rw [htwice]
    decide
  · rw [hrefresh, hrefreshes]
  · rw [honly.pc, hpc]
    rfl
  · rw [honly.timers, htimers]

end FrameBuffer

end Machine

end Chip8
