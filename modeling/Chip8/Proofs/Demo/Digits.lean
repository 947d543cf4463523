import Chip8.Proofs.Demo.States
import Chip8.Proofs.Machine.Bounds
import Chip8.Proofs.Machine.Glyph

/-!
What the built-in program shows. Each of its sixteen places has an annotation (`Standing`), which
the instruction there turns into the annotation of the place where it goes on. The two drawings are
the point of it: the first meets a blank grid and leaves the digit, the second meets the digit and
takes it away again, on every size and with either edge, because drawing is an exclusive or.
-/

namespace Chip8.Demo

/-- A digit where the program draws it. Rows that the font has no more bytes for are empty. -/
def glyph (b : Blueprint) (digit : UInt8) : Sprite where
  bytes := (List.range 5).map fun r => b.font.getD (5 * digit.toNat + r) 0
  x := 28
  y := 13

/-- The pixels of a digit that is drawn once on a blank grid. -/
def litBy (b : Blueprint) (size : DisplaySize) (digit : UInt8) (row col : Nat) : Bool :=
  (Dot.hits ((glyph b digit).dots b.compat size) row col).bodd

namespace State

def Blank (s : State) : Prop :=
  s.lit = fun _ _ => false

def Placed (s : State) : Prop :=
  s.column = 28 ∧ s.row = 13

/-- What is drawn next is the digit. -/
def Aimed (s : State) : Prop :=
  s.Placed ∧ s.digit.toNat < 16 ∧ s.index = fontAddr + 5 * (s.digit.toUInt16 &&& 0xF)

def Showing (b : Blueprint) (size : DisplaySize) (s : State) : Prop :=
  s.Aimed ∧ s.lit = litBy b size s.digit

end State

/-- What holds before the instruction at place `k`. -/
def Standing (b : Blueprint) (size : DisplaySize) (s : State) : Nat → Prop
  | 0 => s.digit.toNat < 16
  | 1 | 2 => s.Blank ∧ s.digit.toNat < 16
  | 3 => s.Blank ∧ s.digit.toNat < 16 ∧ s.column = 28
  | 4 | 12 | 15 => s.Blank ∧ s.digit.toNat < 16 ∧ s.Placed
  | 5 => s.Blank ∧ s.Aimed
  | 6 | 7 | 8 | 9 | 10 | 11 => s.Showing b size
  | 13 | 14 => s.Blank ∧ s.digit.toNat ≤ 16 ∧ s.Placed
  | _ => False

variable {b : Blueprint} {size : DisplaySize} {s : State} {k : Nat}

/-! ### The two drawings -/

theorem sprite_eq_glyph (hfont : b.font.length ≤ Font.maxSize) (h : s.Aimed) :
    s.sprite b = glyph b s.digit := by
  obtain ⟨⟨hcolumn, hrow⟩, hdigit, hindex⟩ := h
  have hbyte : ∀ r < 5, b.image.read (s.index + UInt16.ofNat r) =
      b.font.getD (5 * s.digit.toNat + r) 0 := by
    intro r hr
    rw [hindex, Machine.read_glyph hfont (fun _ _ _ => rfl) s.digit hr, Nat.mod_eq_of_lt hdigit]
  unfold State.sprite glyph
  rw [hcolumn, hrow]
  have hbytes := List.map_congr_left fun r hr => hbyte r (List.mem_range.1 hr)
  rw [hbytes]

theorem flip_blank (hfont : b.font.length ≤ Font.maxSize) (hblank : s.Blank) (h : s.Aimed) :
    (s.flip b size).Showing b size := by
  refine ⟨h, funext fun row => funext fun col => ?_⟩
  show (s.lit row col ^^ (Dot.hits ((s.sprite b).dots b.compat size) row col).bodd) = _
  rw [hblank, sprite_eq_glyph hfont h, Bool.false_xor]
  rfl

theorem flip_showing (hfont : b.font.length ≤ Font.maxSize) (h : s.Showing b size) :
    (s.flip b size).Blank := by
  obtain ⟨haimed, hlit⟩ := h
  refine funext fun row => funext fun col => ?_
  show (s.lit row col ^^ (Dot.hits ((s.sprite b).dots b.compat size) row col).bodd) = _
  rw [hlit, sprite_eq_glyph hfont haimed]
  exact Bool.xor_self _

/-! ### One step -/

/-- Every instruction turns the annotation of its place into that of the next. -/
theorem standing_next (hfont : b.font.length ≤ Font.maxSize) (h : Standing b size s k) :
    Standing b size (next b size k s).2 (next b size k s).1 := by
  match k with
  | 0 => exact ⟨rfl, h⟩
  | 1 => exact ⟨h.1, show (0 : UInt8).toNat < 16 by decide⟩
  | 2 => exact ⟨h.1, h.2, rfl⟩
  | 3 => exact ⟨h.1, h.2.1, h.2.2, rfl⟩
  | 4 =>
      obtain ⟨hblank, hdigit, hplaced⟩ := h
      exact ⟨hblank, hplaced, hdigit, rfl⟩
  | 5 => exact flip_blank hfont h.1 h.2
  | 6 | 7 | 8 | 10 => exact h
  | 9 =>
      show Standing b size s (if s.left = 0 then 11 else 10)
      split_ifs <;> exact h
  | 11 =>
      obtain ⟨hplaced, hdigit, -⟩ := h.1
      exact ⟨flip_showing hfont h, hdigit, hplaced⟩
  | 12 =>
      obtain ⟨hblank, hdigit, hplaced⟩ := h
      refine ⟨hblank, ?_, hplaced⟩
      show (s.digit + 1).toNat ≤ 16
      rw [UInt8.toNat_add]
      exact Nat.le_trans (Nat.mod_le _ _) hdigit
  | 13 =>
      obtain ⟨hblank, hdigit, hplaced⟩ := h
      show Standing b size s (if s.digit = 16 then 14 else 15)
      split_ifs with hlast
      · exact ⟨hblank, hdigit, hplaced⟩
      · -- The skip is not taken for nothing: sixteen was the only digit too many.
        have hne : s.digit.toNat ≠ 16 := fun he => hlast (UInt8.toNat_inj.1 he)
        exact ⟨hblank, by omega, hplaced⟩
  | 14 => exact ⟨h.1, show (0 : UInt8).toNat < 16 by decide, h.2.2⟩
  | 15 => exact h
  | k + 16 => exact h.elim

theorem Standing.digit_le (h : Standing b size s k) : s.digit.toNat ≤ 16 := by
  match k with
  | 0 => exact Nat.le_of_lt h
  | 1 | 2 => exact Nat.le_of_lt h.2
  | 3 | 4 | 12 | 15 => exact Nat.le_of_lt h.2.1
  | 5 => exact Nat.le_of_lt h.2.2.1
  | 6 | 7 | 8 | 9 | 10 | 11 => exact Nat.le_of_lt h.1.2.1
  | 13 | 14 => exact h.2.1
  | k + 16 => exact h.elim

/-- Between the two drawings the grid shows the digit, and elsewhere it is blank. -/
theorem Standing.lit_eq (h : Standing b size s k) (hk : 0 < k) :
    s.lit = if 6 ≤ k ∧ k ≤ 11 then litBy b size s.digit else fun _ _ => false := by
  match k with
  | 0 => exact absurd hk (Nat.lt_irrefl 0)
  | 1 | 2 | 3 | 4 | 5 | 12 | 13 | 14 | 15 => exact h.1
  | 6 | 7 | 8 | 9 | 10 | 11 => exact h.2
  | k + 16 => exact h.elim

/-! ### Every run -/

/-- A machine that runs the program, before the instruction at place `k`. -/
structure Running (b : Blueprint) (m : Machine FrameBuffer) (k : Nat) : Prop where
  loaded : Loaded b m
  place_lt : k < 16
  pc_eq : m.pc = place k
  standing : Standing b m.size (look m) k

namespace Running

variable {m : Machine FrameBuffer}

/-- A step does what the program says. -/
theorem stepAt_next (h : Running b m k) (now : Nat) :
    (m.stepAt now).1 = .ok () ∧
      Running b (m.stepAt now).2 (next b m.size k (look m)).1 ∧
      look (m.stepAt now).2 = (next b m.size k (look m)).2 := by
  obtain ⟨hok, hpc, hlook⟩ := h.loaded.step_next h.place_lt h.pc_eq
  obtain ⟨i, hi⟩ : ∃ i, code[k]? = some i := ⟨_, List.getElem?_eq_getElem h.place_lt⟩
  rw [Machine.stepAt_of_ungated h.loaded.ungated]
  refine ⟨hok, ⟨h.loaded.of_step hi h.pc_eq, (next_place b m.size k (look m)).2, hpc, ?_⟩, hlook⟩
  rw [hlook, Machine.size_step]
  exact standing_next h.loaded.font h.standing

/-- No step fails, and after one the first place is behind the machine. -/
theorem stepAt (h : Running b m k) (now : Nat) :
    (m.stepAt now).1 = .ok () ∧ ∃ k', 0 < k' ∧ Running b (m.stepAt now).2 k' := by
  obtain ⟨hok, hnext, -⟩ := h.stepAt_next now
  exact ⟨hok, _, (next_place b m.size k (look m)).1, hnext⟩

/-- The annotations say nothing about the delay timer. -/
theorem tick (h : Running b m k) : Running b m.tick k :=
  ⟨h.loaded.tick, h.place_lt, h.pc_eq, h.standing⟩

/-- A key is never asked for. -/
theorem hold (h : Running b m k) (key : Option UInt8) : Running b (m.act (.hold key)) k := by
  refine ⟨h.loaded.hold key, h.place_lt, h.pc_eq, ?_⟩
  have hlook : look (m.act (.hold key)) = look m := look_hold m key
  rw [hlook]
  exact h.standing

theorem act (h : Running b m k) (a : Act) :
    ∃ k', (0 < k → 0 < k') ∧ Running b (m.act a) k' := by
  cases a with
  | step now =>
      obtain ⟨-, k', hpos, h'⟩ := h.stepAt now
      exact ⟨k', fun _ => hpos, h'⟩
  | tick => exact ⟨k, id, h.tick⟩
  | hold key => exact ⟨k, id, h.hold key⟩

theorem play (h : Running b m k) (acts : List Act) :
    ∃ k', (0 < k → 0 < k') ∧ Running b (m.play acts) k' := by
  induction acts generalizing m k with
  | nil => exact ⟨k, id, h⟩
  | cons a acts ih =>
      obtain ⟨k₁, hpos₁, h₁⟩ := h.act a
      obtain ⟨k', hpos', h'⟩ := ih h₁
      exact ⟨k', fun hpos => hpos' (hpos₁ hpos), h'⟩

theorem play_of_step (h : Running b m k) {acts : List Act} {now : Nat} (hstep : .step now ∈ acts) :
    ∃ k', 0 < k' ∧ Running b (m.play acts) k' := by
  obtain ⟨pre, post, rfl⟩ := List.append_of_mem hstep
  obtain ⟨k₁, -, h₁⟩ := h.play pre
  obtain ⟨-, k₂, hpos, h₂⟩ := h₁.stepAt now
  obtain ⟨k', hpos', h'⟩ := h₂.play post
  rw [Machine.play_append]
  exact ⟨k', hpos' hpos, h'⟩

end Running

/-- A machine that is built with the program runs it from the first place on. -/
theorem build_running (program : b.program = demoProgram) (ungated : b.gated = false)
    (font : b.font.length ≤ 80) (around : Blueprint.Surroundings) (fb : FrameBuffer)
    (width_pos : 0 < fb.size.width) (height_pos : 0 < fb.size.height) :
    b.build around fb = .ok (b.machine around fb fb.size) ∧
      Running b (b.machine around fb fb.size) 0 := by
  have hfits : b.Fits fb.size := ⟨width_pos, height_pos, font, by rw [program]; decide⟩
  refine ⟨Blueprint.build_eq_ok_iff.2 ⟨hfits, rfl⟩, ?_⟩
  constructor
  · exact ⟨program, font, rfl, rfl, by simp [Blueprint.machine, ungated], rfl,
      ⟨rfl, width_pos, height_pos⟩⟩
  · decide
  · rfl
  · show ((Vector.replicate 16 (0 : UInt8)).get 0).toNat < 16
    decide

/-- The grid on which a digit is drawn once and nothing else. -/
def digitGrid (b : Blueprint) (size : DisplaySize) (digit : UInt8) : FrameBuffer :=
  (plot (FrameBuffer.new size) false ((glyph b digit).dots b.compat size)).2.2

theorem contains_of_mem_glyph (hwidth : 0 < size.width) (hheight : 0 < size.height)
    (digit : UInt8) :
    ∀ dot ∈ (glyph b digit).dots b.compat size,
      (FrameBuffer.new size).size.Contains dot.row dot.col := by
  intro dot hdot
  exact Sprite.contains_of_mem_dots hwidth hheight hdot

theorem lit_digitGrid (hwidth : 0 < size.width) (hheight : 0 < size.height) (digit : UInt8)
    (row col : Nat) : (digitGrid b size digit).lit row col = litBy b size digit row col := by
  rw [digitGrid, FrameBuffer.lit_plot false (contains_of_mem_glyph hwidth hheight digit),
    FrameBuffer.lit_new, Bool.false_xor]
  rfl

theorem Running.sameGrid {m : Machine FrameBuffer} (h : Running b m k) (hk : 0 < k) :
    FrameBuffer.SameGrid m.display
      (if 0x20C ≤ m.pc.toNat ∧ m.pc.toNat ≤ 0x216 then digitGrid b m.size (m.reg 0)
        else .new m.size) := by
  have hfills := h.loaded.fills
  have hlit : m.display.lit = _ := h.standing.lit_eq hk
  have hpc : (0x20C ≤ m.pc.toNat ∧ m.pc.toNat ≤ 0x216) ↔ 6 ≤ k ∧ k ≤ 11 := by
    rw [h.pc_eq, toNat_place k h.place_lt]
    omega
  by_cases hshown : 6 ≤ k ∧ k ≤ 11
  · have hdots := contains_of_mem_glyph (b := b) hfills.width_pos hfills.height_pos (m.reg 0)
    rw [if_pos hshown] at hlit
    rw [if_pos (hpc.2 hshown)]
    refine FrameBuffer.sameGrid_of_lit ?_ fun row col => ?_
    · exact hfills.size_eq.trans (FrameBuffer.redrawn_plot false hdots).size_eq.symm
    · rw [hlit, lit_digitGrid hfills.width_pos hfills.height_pos]
      rfl
  · rw [if_neg hshown] at hlit
    rw [if_neg (fun h => hshown (hpc.1 h))]
    refine FrameBuffer.sameGrid_of_lit hfills.size_eq fun row col => ?_
    rw [hlit, FrameBuffer.lit_new]

/-- The built-in program on any grid of pixels, whatever was lit, however often it is stepped and
ticked and whatever keys are held. -/
theorem play_demoProgram (program : b.program = demoProgram) (ungated : b.gated = false)
    (font : b.font.length ≤ 80) (around : Blueprint.Surroundings) (fb : FrameBuffer)
    (width_pos : 0 < fb.size.width) (height_pos : 0 < fb.size.height) :
    ∃ m, b.build around fb = .ok m ∧ ∀ acts,
      (∀ now, ((m.play acts).stepAt now).1 = .ok ()) ∧
      (m.play acts).memory = m.memory ∧
      (m.play acts).stack.entries = #[] ∧
      ((m.play acts).pc.toNat % 2 = 0 ∧ 0x200 ≤ (m.play acts).pc.toNat ∧
        (m.play acts).pc.toNat ≤ 0x21E) ∧
      ((m.play acts).reg 0).toNat ≤ 16 ∧
      ∀ now, .step now ∈ acts → FrameBuffer.SameGrid (m.play acts).display
        (if 0x20C ≤ (m.play acts).pc.toNat ∧ (m.play acts).pc.toNat ≤ 0x216 then
          digitGrid b fb.size ((m.play acts).reg 0)
        else .new fb.size) := by
  obtain ⟨hbuild, hstart⟩ := build_running program ungated font around fb width_pos height_pos
  refine ⟨b.machine around fb fb.size, hbuild, fun acts => ?_⟩
  obtain ⟨k, -, h⟩ := hstart.play acts
  have hk := h.place_lt
  have hpc := toNat_place k hk
  rw [← h.pc_eq] at hpc
  refine ⟨fun now => (h.stepAt now).1, h.loaded.memory_eq, h.loaded.entries_eq,
    ⟨by omega, by omega, by omega⟩, h.standing.digit_le, fun now hstep => ?_⟩
  obtain ⟨k', hpos, h'⟩ := hstart.play_of_step hstep
  have hgrid := h'.sameGrid hpos
  rw [Machine.size_play] at hgrid
  exact hgrid

/-- The program with a font that has only one glyph. -/
def oneGlyph : Blueprint :=
  { program := demoProgram, font := [0xF0, 0x90, 0x90, 0x90, 0xF0], gated := false }

/-- On a grid that is narrower than a byte of a sprite and lower than its coordinates, the digit
begins in the last row, and nothing is left of a pixel that was lit before. -/
theorem play_demoProgram_oneGlyph :
    let frame := ((FrameBuffer.new ⟨6, 7⟩).setPixel 2 3 true).2
    let acts := [.step 0, .step 0, .tick, .step 0, .step 0, .hold (some 5), .step 0, .step 0]
    (digitGrid oneGlyph ⟨6, 7⟩ 0).litCount = 4 ∧
      ∃ m, oneGlyph.build {} frame = .ok m ∧ (m.play acts).pc = 0x20C ∧
        FrameBuffer.SameGrid (m.play acts).display (digitGrid oneGlyph ⟨6, 7⟩ 0) := by
  intro frame acts
  obtain ⟨m, hbuild, hplay⟩ := play_demoProgram (b := oneGlyph) rfl rfl (by decide) {} frame
    (by decide) (by decide)
  obtain ⟨-, rfl⟩ := Blueprint.build_eq_ok_iff.1 hbuild
  have hhere : ((oneGlyph.machine {} frame ⟨6, 7⟩).play acts).pc = 0x20C ∧
      ((oneGlyph.machine {} frame ⟨6, 7⟩).play acts).reg 0 = 0 := by decide +kernel
  obtain ⟨-, -, -, -, -, hgrid⟩ := hplay acts
  have hshown := hgrid 0 List.mem_cons_self
  rw [if_pos (by decide +kernel)] at hshown
  refine ⟨by decide +kernel, _, hbuild, hhere.1, ?_⟩
  rw [← hhere.2]
  exact hshown

end Chip8.Demo
