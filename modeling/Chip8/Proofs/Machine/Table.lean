import Chip8.Proofs.Instruction.Encoding
import Chip8.Proofs.Machine.Frame
import Chip8.Proofs.Machine.Policy

/-!
The table of instructions. A manual says in numbers what an instruction does: the operands of a
word are remainders, a register holds a number below 256, addresses are counted modulo 4096. The
rows for the instructions that jump, skip, load a register or set I are written down here as such
a manual has them (`Numbers.table`), and a step makes the change that the row of its word asks for
and no other (`Makes`), wherever in memory the word stands. So a run through such words can be
worked out on the numbers (`Sound.observed_play`).
-/

namespace Chip8

/-- A machine in numbers, as far as the table looks at it. -/
structure Numbers where
  pc : Nat
  index : Nat
  reg : Nibble → Nat
  delay : Nat
  mode : Mode
  /-- The bytes of memory. There are 4096, and a zero stands for those that do not exist. -/
  byte : Nat → Nat

/-- What a row of the table asks for. -/
inductive Change
  /-- To go on at an address. -/
  | goTo (target : Nat)
  /-- To leave out the next word on a condition. -/
  | skip (condition : Bool)
  /-- The same, on a condition for which the display is asked for the held key. -/
  | skipByKey (condition : Bool)
  /-- To load a register. -/
  | load (x : Nibble) (value : Nat)
  /-- To set I. -/
  | point (index : Nat)
  deriving DecidableEq, Repr

namespace Numbers

/-- The word at the program counter. The last byte of memory is followed by the first. -/
def word (s : Numbers) : Nat :=
  256 * s.byte s.pc + s.byte ((s.pc + 1) % 4096)

/-! ### The operands of the word -/

def x (s : Numbers) : Nibble :=
  ⟨s.word / 256 % 16, Nat.mod_lt _ (by decide)⟩

def y (s : Numbers) : Nibble :=
  ⟨s.word / 16 % 16, Nat.mod_lt _ (by decide)⟩

def nn (s : Numbers) : Nat :=
  s.word % 256

def nnn (s : Numbers) : Nat :=
  s.word % 4096

def vx (s : Numbers) : Nat :=
  s.reg s.x

def vy (s : Numbers) : Nat :=
  s.reg s.y

/-! ### The rows -/

def jumps (s : Numbers) : List (String × Change) := [
  ("1NNN", .goTo s.nnn),
  ("BNNN", .goTo (match s.mode with
    | .cosmacVip => (s.nnn + s.reg 0) % 4096
    | .superChip => (s.nn + s.vx) % 4096))]

def skips (s : Numbers) (key : Option Nat) : List (String × Change) := [
  ("3XNN", .skip (s.vx = s.nn)),
  ("4XNN", .skip (s.vx ≠ s.nn)),
  ("5XY0", .skip (s.vx = s.vy)),
  ("9XY0", .skip (s.vx ≠ s.vy)),
  ("EX9E", .skipByKey (key = some s.vx)),
  ("EXA1", .skipByKey (key ≠ some s.vx))]

def loads (s : Numbers) : List (String × Change) := [
  ("6XNN", .load s.x s.nn),
  ("7XNN", .load s.x ((s.vx + s.nn) % 256)),
  ("8XY0", .load s.x s.vy),
  ("8XY1", .load s.x (s.vx ||| s.vy)),
  ("8XY2", .load s.x (s.vx &&& s.vy)),
  ("8XY3", .load s.x (s.vx ^^^ s.vy)),
  ("FX07", .load s.x s.delay)]

def points (s : Numbers) : List (String × Change) := [
  ("ANNN", .point s.nnn),
  ("FX1E", .point ((s.index + s.vx) % 4096)),
  ("FX29", .point (0x50 + 5 * (s.vx % 16)))]

/-- The rows of the table, each with the pattern of its words, for a machine on which `key` is
held. -/
def table (s : Numbers) (key : Option Nat) : List (String × Change) :=
  s.jumps ++ s.skips key ++ s.loads ++ s.points

/-- The numbers after a change. Unless it goes elsewhere, the machine goes on at the next word. -/
def after (s : Numbers) : Change → Numbers
  | .goTo target => { s with pc := target }
  | .skip condition | .skipByKey condition =>
    { s with pc := if condition then (s.pc + 4) % 4096 else (s.pc + 2) % 4096 }
  | .load x value =>
    { s with pc := (s.pc + 2) % 4096, reg := fun k => if k = x then value else s.reg k }
  | .point index => { s with pc := (s.pc + 2) % 4096, index }

end Numbers

/-- Whether the display is asked for the held key. -/
def Change.asks : Change → Bool
  | .skipByKey _ => true
  | _ => false

namespace Machine

open Instruction

variable {D : Type} {m : Machine D}

def numbers (m : Machine D) : Numbers where
  pc := m.pc.toNat
  index := m.index.toNat
  reg k := (m.reg k).toNat
  delay := m.timers.delay.toNat
  mode := m.compat.mode
  byte a := (m.memory[a]?.getD 0).toNat

/-! ### The word and its operands -/

theorem byte_numbers (m : Machine D) (addr : UInt16) :
    m.numbers.byte (address addr).toNat = (m.memory.read addr).toNat := by
  have hlt : (address addr).toNat < memorySize := address_lt addr
  show (m.memory[(address addr).toNat]?.getD 0).toNat = _
  rw [Vector.getElem?_eq_getElem hlt]
  rfl

theorem Sound.toNat_word (h : m.Sound) : m.fetch.toNat = m.numbers.word := by
  rw [fetch, Memory.toNat_readWord, ← byte_numbers, ← byte_numbers, toNat_address_add,
    toNat_address, Nat.mod_eq_of_lt h.pc_lt]
  rfl

theorem Sound.nibble_x (h : m.Sound) : Opcode.nibble m.fetch 1 = m.numbers.x :=
  Fin.ext (by rw [val_nibble_one, h.toNat_word]; rfl)

theorem Sound.nibble_y (h : m.Sound) : Opcode.nibble m.fetch 2 = m.numbers.y :=
  Fin.ext (by rw [val_nibble_two, h.toNat_word]; rfl)

theorem Sound.toNat_nn (h : m.Sound) : (Opcode.lowByte m.fetch).toNat = m.numbers.nn := by
  rw [toNat_lowByte, h.toNat_word]
  rfl

theorem Sound.toNat_nnn (h : m.Sound) : (address m.fetch).toNat = m.numbers.nnn := by
  rw [toNat_address, h.toNat_word]
  rfl

/-! ### Decoding

A pattern fixes the first digit, the first and the last, or all but the second. The other fields of
the word are operands, or nothing looks at them. -/

section Decoding

variable {pattern : String} {a b c d : Char} {f n p : Nibble}

theorem Sound.decoded_leading (h : m.Sound) (f : Nibble) (hfits : Fits pattern m.fetch)
    (hpattern : pattern.toList = [a, b, c, d]) (hf : Text.hexValue? a = some f.val) :
    m.instruction? = ofFields? f m.numbers.x m.numbers.y (Opcode.nibble m.fetch 3)
      (Opcode.lowByte m.fetch) (address m.fetch) := by
  obtain ⟨hleading, -⟩ := (fits_iff hpattern).1 hfits
  rw [instruction?, decode?, eq_of_hexValue? hleading hf, h.nibble_x, h.nibble_y]

theorem Sound.decoded_last (h : m.Sound) (f n : Nibble) (hfits : Fits pattern m.fetch)
    (hpattern : pattern.toList = [a, b, c, d]) (hf : Text.hexValue? a = some f.val)
    (hn : Text.hexValue? d = some n.val) :
    m.instruction? = ofFields? f m.numbers.x m.numbers.y n (Opcode.lowByte m.fetch)
      (address m.fetch) := by
  obtain ⟨-, -, -, hlast⟩ := (fits_iff hpattern).1 hfits
  rw [h.decoded_leading f hfits hpattern hf, eq_of_hexValue? hlast hn]

theorem Sound.decoded_byte (h : m.Sound) (f p n : Nibble) (hfits : Fits pattern m.fetch)
    (hpattern : pattern.toList = [a, b, c, d]) (hf : Text.hexValue? a = some f.val)
    (hp : Text.hexValue? c = some p.val) (hn : Text.hexValue? d = some n.val) :
    m.instruction? = ofFields? f m.numbers.x m.numbers.y n (UInt8.ofNat (16 * p.val + n.val))
      (address m.fetch) := by
  obtain ⟨-, -, hnext, hlast⟩ := (fits_iff hpattern).1 hfits
  have hbyte : Opcode.lowByte m.fetch = UInt8.ofNat (16 * p.val + n.val) := by
    apply UInt8.toNat_inj.1
    rw [toNat_lowByte_eq_iff, eq_of_hexValue? hnext hp, eq_of_hexValue? hlast hn,
      UInt8.toNat_ofNat']
    omega
  rw [h.decoded_last f n hfits hpattern hf hn, hbyte]

end Decoding

/-! ### Kinds of change -/

theorem numbers_advance (m : Machine D) :
    m.advance.numbers = { m.numbers with pc := (m.pc.toNat + 2) % 4096 } := by
  have hpc : (address (m.pc + 2)).toNat = (m.pc.toNat + 2) % 4096 := toNat_address_add m.pc 2
  rw [← hpc]
  rfl

theorem numbers_skipIf (m : Machine D) (display : D) (condition : Bool) :
    (skipIf { m.advance with display } condition).numbers =
      m.numbers.after (.skip condition) := by
  cases condition with
  | false => exact numbers_advance m
  | true =>
      show { m.numbers with pc := (address (m.advance.pc + 2)).toNat } = _
      rw [address_skip, toNat_address_add]
      rfl

theorem numbers_setReg (m : Machine D) (x : Nibble) (value : UInt8) :
    (m.advance.setReg x value).numbers = m.numbers.after (.load x value.toNat) := by
  have hreg : ∀ k, ((m.advance.setReg x value).reg k).toNat =
      if k = x then value.toNat else (m.reg k).toNat := by
    intro k
    by_cases hk : k = x
    · rw [if_pos hk, hk, reg_setReg_self]
    · rw [if_neg hk, reg_setReg_of_ne _ (Ne.symm hk)]
      rfl
  show { m.advance.numbers with reg := fun k => ((m.advance.setReg x value).reg k).toNat } = _
  rw [funext hreg, numbers_advance]
  rfl

/-- A step that ends well and makes the change, and no other. -/
structure Makes [Display D] (m : Machine D) (change : Change) (outcome : Outcome D) : Prop where
  ok : outcome.1 = .ok ()
  numbers : outcome.2.numbers = m.numbers.after change
  display : outcome.2.display =
    if change.asks then (Display.pollKey m.display).2 else m.display
  rest : outcome.2 = { m with
    pc := outcome.2.pc
    index := outcome.2.index
    regs := outcome.2.regs
    display := outcome.2.display }

section Step

variable [Display D] {i : Instruction} {change : Change}

theorem makes_goTo {target : UInt16} {value : Nat} (hi : m.instruction? = some i)
    (hexecute : m.advance.execute i = done { m.advance with pc := target })
    (hvalue : target.toNat = value) : Makes m (.goTo value) m.step := by
  subst hvalue
  rw [step_of_some hi, hexecute]
  exact ⟨rfl, rfl, rfl, rfl⟩

theorem makes_skip {condition : Bool} {p : Prop} [Decidable p] (hi : m.instruction? = some i)
    (hexecute : m.advance.execute i = (m.advance.skipIf condition).done)
    (hcondition : condition ↔ p) : Makes m (.skip p) m.step := by
  obtain rfl : condition = decide p := Bool.eq_iff_iff.2 (hcondition.trans decide_eq_true_iff.symm)
  rw [step_of_some hi, hexecute]
  refine ⟨rfl, numbers_skipIf m _ _, ?_, ?_⟩
  all_goals
    rw [done_snd, skipIf_eq]
    rfl

theorem makes_skipByKey {condition : Bool} {p : Prop} [Decidable p]
    (hi : m.instruction? = some i)
    (hexecute : m.advance.execute i =
      (skipIf { m.advance with display := (Display.pollKey m.display).2 } condition).done)
    (hcondition : condition ↔ p) : Makes m (.skipByKey p) m.step := by
  obtain rfl : condition = decide p := Bool.eq_iff_iff.2 (hcondition.trans decide_eq_true_iff.symm)
  rw [step_of_some hi, hexecute]
  refine ⟨rfl, numbers_skipIf m _ _, ?_, ?_⟩
  all_goals
    rw [done_snd, skipIf_eq]
    rfl

theorem makes_load {x : Nibble} {byte : UInt8} {value : Nat} (hi : m.instruction? = some i)
    (hexecute : m.advance.execute i = (m.advance.setReg x byte).done)
    (hvalue : byte.toNat = value) : Makes m (.load x value) m.step := by
  subst hvalue
  rw [step_of_some hi, hexecute]
  exact ⟨rfl, numbers_setReg m x byte, rfl, rfl⟩

theorem makes_point {index : UInt16} {value : Nat} (hi : m.instruction? = some i)
    (hexecute : m.advance.execute i = done { m.advance with index })
    (hvalue : index.toNat = value) : Makes m (.point value) m.step := by
  subst hvalue
  rw [step_of_some hi, hexecute]
  refine ⟨rfl, ?_, rfl, rfl⟩
  show { m.advance.numbers with index := index.toNat } = _
  rw [numbers_advance]
  rfl

/-! ### Row by row

The pattern gives the instruction, the instruction the kind of change, and what is left to show is
that the bytes and words of the machine come to the numbers of the row. -/

theorem key_eq_iff {key : Option UInt8} {value : UInt8} :
    key = some value ↔ key.map UInt8.toNat = some value.toNat := by
  have hinjective : Function.Injective UInt8.toNat := fun _ _ => UInt8.toNat_inj.1
  exact (Option.map_injective hinjective).eq_iff.symm

omit [Display D] in
theorem Sound.toNat_offsetTarget (h : m.Sound) :
    (m.offsetTarget (address m.fetch)).toNat = match m.numbers.mode with
      | .cosmacVip => (m.numbers.nnn + m.numbers.reg 0) % 4096
      | .superChip => (m.numbers.nn + m.numbers.vx) % 4096 := by
  have hmode : m.numbers.mode = m.compat.mode := rfl
  have hx : Opcode.nibble (address m.fetch) 1 = m.numbers.x := by
    apply Fin.ext
    rw [val_nibble_one, h.toNat_nnn]
    show m.numbers.word % 4096 / 256 % 16 = m.numbers.word / 256 % 16
    omega
  have hnn : (address m.fetch &&& 0xFF).toNat = m.numbers.nn := by
    rw [UInt16.toNat_and, h.toNat_nnn]
    refine (Nat.and_two_pow_sub_one_eq_mod _ 8).trans ?_
    show m.numbers.word % 4096 % 256 = m.numbers.word % 256
    omega
  rw [hmode]
  unfold offsetTarget
  cases m.compat.mode with
  | cosmacVip =>
      show (address (address m.fetch + (m.reg 0).toUInt16)).toNat = _
      rw [toNat_address_add, h.toNat_nnn, UInt8.toNat_toUInt16]
      rfl
  | superChip =>
      show (address ((address m.fetch &&& 0xFF) +
        (m.reg (Opcode.nibble (address m.fetch) 1)).toUInt16)).toNat = _
      rw [toNat_address_add, hnn, hx, UInt8.toNat_toUInt16]
      rfl

theorem Sound.makes_jumps (h : m.Sound) {pattern : String}
    (hrow : (pattern, change) ∈ m.numbers.jumps) (hfits : Fits pattern m.fetch) :
    Makes m change m.step := by
  simp only [Numbers.jumps, List.mem_cons, Prod.mk.injEq, List.not_mem_nil, or_false] at hrow
  rcases hrow with ⟨rfl, rfl⟩ | ⟨rfl, rfl⟩
  · have hi : m.instruction? = some (.jump (address m.fetch)) :=
      h.decoded_leading 0x1 hfits rfl rfl
    exact makes_goTo hi rfl h.toNat_nnn
  · have hi : m.instruction? = some (.jumpOffset (address m.fetch)) :=
      h.decoded_leading 0xB hfits rfl rfl
    exact makes_goTo hi rfl h.toNat_offsetTarget

theorem Sound.makes_skips (h : m.Sound) {pattern : String}
    (hrow : (pattern, change) ∈ m.numbers.skips (m.key?.map UInt8.toNat))
    (hfits : Fits pattern m.fetch) : Makes m change m.step := by
  have hnn := h.toNat_nn
  simp only [Numbers.skips, List.mem_cons, Prod.mk.injEq, List.not_mem_nil, or_false] at hrow
  rcases hrow with ⟨rfl, rfl⟩ | ⟨rfl, rfl⟩ | ⟨rfl, rfl⟩ | ⟨rfl, rfl⟩ | ⟨rfl, rfl⟩ | ⟨rfl, rfl⟩
  · have hi : m.instruction? = some (.skipEqImm m.numbers.x (Opcode.lowByte m.fetch)) :=
      h.decoded_leading 0x3 hfits rfl rfl
    refine makes_skip hi rfl ?_
    rw [beq_iff_eq, ← UInt8.toNat_inj, hnn]
    rfl
  · have hi : m.instruction? = some (.skipNeImm m.numbers.x (Opcode.lowByte m.fetch)) :=
      h.decoded_leading 0x4 hfits rfl rfl
    refine makes_skip hi rfl ?_
    rw [bne_iff_ne, ← UInt8.toNat_inj.ne, hnn]
    rfl
  · have hi : m.instruction? = some (.skipEqReg m.numbers.x m.numbers.y) :=
      h.decoded_last 0x5 0x0 hfits rfl rfl rfl
    exact makes_skip hi rfl (beq_iff_eq.trans UInt8.toNat_inj.symm)
  · have hi : m.instruction? = some (.skipNeReg m.numbers.x m.numbers.y) :=
      h.decoded_last 0x9 0x0 hfits rfl rfl rfl
    exact makes_skip hi rfl (bne_iff_ne.trans (not_congr UInt8.toNat_inj.symm))
  · have hi : m.instruction? = some (.skipKey m.numbers.x) :=
      h.decoded_byte 0xE 0x9 0xE hfits rfl rfl rfl rfl
    exact makes_skipByKey hi rfl (beq_iff_eq.trans key_eq_iff)
  · have hi : m.instruction? = some (.skipNotKey m.numbers.x) :=
      h.decoded_byte 0xE 0xA 0x1 hfits rfl rfl rfl rfl
    exact makes_skipByKey hi rfl (bne_iff_ne.trans (not_congr key_eq_iff))

theorem Sound.makes_loads (h : m.Sound) {pattern : String}
    (hrow : (pattern, change) ∈ m.numbers.loads) (hfits : Fits pattern m.fetch) :
    Makes m change m.step := by
  simp only [Numbers.loads, List.mem_cons, Prod.mk.injEq, List.not_mem_nil, or_false] at hrow
  rcases hrow with
    ⟨rfl, rfl⟩ | ⟨rfl, rfl⟩ | ⟨rfl, rfl⟩ | ⟨rfl, rfl⟩ | ⟨rfl, rfl⟩ | ⟨rfl, rfl⟩ | ⟨rfl, rfl⟩
  · have hi : m.instruction? = some (.loadImm m.numbers.x (Opcode.lowByte m.fetch)) :=
      h.decoded_leading 0x6 hfits rfl rfl
    exact makes_load hi rfl h.toNat_nn
  · have hi : m.instruction? = some (.addImm m.numbers.x (Opcode.lowByte m.fetch)) :=
      h.decoded_leading 0x7 hfits rfl rfl
    refine makes_load hi rfl ?_
    rw [UInt8.toNat_add, h.toNat_nn]
    rfl
  · have hi : m.instruction? = some (.loadReg m.numbers.x m.numbers.y) :=
      h.decoded_last 0x8 0x0 hfits rfl rfl rfl
    exact makes_load hi rfl rfl
  · have hi : m.instruction? = some (.or m.numbers.x m.numbers.y) :=
      h.decoded_last 0x8 0x1 hfits rfl rfl rfl
    exact makes_load hi rfl (UInt8.toNat_or _ _)
  · have hi : m.instruction? = some (.and m.numbers.x m.numbers.y) :=
      h.decoded_last 0x8 0x2 hfits rfl rfl rfl
    exact makes_load hi rfl (UInt8.toNat_and _ _)
  · have hi : m.instruction? = some (.xor m.numbers.x m.numbers.y) :=
      h.decoded_last 0x8 0x3 hfits rfl rfl rfl
    exact makes_load hi rfl (UInt8.toNat_xor _ _)
  · have hi : m.instruction? = some (.loadDelay m.numbers.x) :=
      h.decoded_byte 0xF 0x0 0x7 hfits rfl rfl rfl rfl
    exact makes_load hi rfl rfl

theorem Sound.makes_points (h : m.Sound) {pattern : String}
    (hrow : (pattern, change) ∈ m.numbers.points) (hfits : Fits pattern m.fetch) :
    Makes m change m.step := by
  simp only [Numbers.points, List.mem_cons, Prod.mk.injEq, List.not_mem_nil, or_false] at hrow
  rcases hrow with ⟨rfl, rfl⟩ | ⟨rfl, rfl⟩ | ⟨rfl, rfl⟩
  · have hi : m.instruction? = some (.loadIndex (address m.fetch)) :=
      h.decoded_leading 0xA hfits rfl rfl
    exact makes_point hi rfl h.toNat_nnn
  · have hi : m.instruction? = some (.addIndex m.numbers.x) :=
      h.decoded_byte 0xF 0x1 0xE hfits rfl rfl rfl rfl
    refine makes_point hi rfl ?_
    rw [toNat_address_add, UInt8.toNat_toUInt16]
    rfl
  · have hi : m.instruction? = some (.loadGlyph m.numbers.x) :=
      h.decoded_byte 0xF 0x2 0x9 hfits rfl rfl rfl rfl
    exact makes_point hi rfl (toNat_glyphAddr _)

theorem Sound.makes_of_mem_table (h : m.Sound) {pattern : String}
    (hrow : (pattern, change) ∈ m.numbers.table (m.key?.map UInt8.toNat))
    (hfits : Fits pattern m.fetch) : Makes m change m.step := by
  simp only [Numbers.table, List.mem_append] at hrow
  rcases hrow with ((hjump | hskip) | hload) | hpoint
  · exact h.makes_jumps hjump hfits
  · exact h.makes_skips hskip hfits
  · exact h.makes_loads hload hfits
  · exact h.makes_points hpoint hfits

end Step

/-! ### Every step of every run -/

/-- At any moment of any run the word that is fetched is the one that stands in memory at the program
counter, and if it fits the pattern of a row, the step makes the change of that row. This is so at
every address, odd ones and the last ones among them, and for any choice of registers. -/
theorem makes_stepAt [Attended D] (h : m.Reachable) (now : Nat) :
    m.fetch.toNat = m.numbers.word ∧
      ∀ pattern change, (pattern, change) ∈ m.numbers.table (m.key?.map UInt8.toNat) →
        Fits pattern m.fetch → Makes m change (m.stepAt now) := by
  rw [stepAt_of_ungated h.sound.ungated]
  exact ⟨h.sound.toNat_word, fun _ _ hrow hfits => h.sound.makes_of_mem_table hrow hfits⟩

/-- Writes `317A` to the last byte of memory and the first, and goes there. -/
def skipsAcross : Blueprint where
  program := [0x60, 0x31, 0x61, 0x7A, 0xAF, 0xFF, 0xF1, 0x55, 0x1F, 0xFF]
  gated := false

/-- The word lies across the end of memory. It leaves out the word behind it and goes on at 003. -/
theorem makes_stepAt_across :
    let m := (skipsAcross.machine {} (FrameBuffer.new ⟨8, 4⟩) ⟨8, 4⟩).play
      ((List.range 5).map .step)
    m.Reachable ∧ m.pc = 0xFFF ∧ m.numbers.word = 0x317A ∧
      ("3XNN", .skip true) ∈ m.numbers.table (m.key?.map UInt8.toNat) ∧ Fits "3XNN" m.fetch ∧
      (m.stepAt 5).2.pc.toNat = 0x003 := by
  have hbuild : skipsAcross.build {} (FrameBuffer.new ⟨8, 4⟩) =
    .ok (skipsAcross.machine {} (FrameBuffer.new ⟨8, 4⟩) ⟨8, 4⟩) := rfl
  have hrun :
      let m := (skipsAcross.machine {} (FrameBuffer.new ⟨8, 4⟩) ⟨8, 4⟩).play
        ((List.range 5).map .step)
      m.pc = 0xFFF ∧ m.fetch = 0x317A ∧ m.reg 1 = 0x7A := by
    decide +kernel
  -- The machine gets a name, so that it is not evaluated once more where its fields are compared.
  obtain ⟨m, hm⟩ : ∃ m, m = (skipsAcross.machine {} (FrameBuffer.new ⟨8, 4⟩) ⟨8, 4⟩).play
    ((List.range 5).map .step) := ⟨_, rfl⟩
  have hreachable : m.Reachable := by
    rw [hm]
    exact (Reachable.built rfl hbuild).play _
  rw [← hm] at hrun ⊢
  dsimp only
  obtain ⟨hpc, hfetch, hreg⟩ := hrun
  obtain ⟨hword, hmakes⟩ := makes_stepAt hreachable 5
  have hfits : Fits "3XNN" m.fetch := by
    rw [hfetch]
    decide
  rw [hfetch] at hword
  have hskips : m.numbers.vx = m.numbers.nn := by
    simp only [Numbers.vx, Numbers.x, Numbers.nn, ← hword]
    exact congrArg UInt8.toNat hreg
  have hrow : ("3XNN", .skip true) ∈ m.numbers.table (m.key?.map UInt8.toNat) := by
    simp [Numbers.table, Numbers.skips, hskips]
  have hmakes := hmakes _ _ hrow hfits
  refine ⟨hreachable, hpc, hword.symm, hrow, hfits, ?_⟩
  calc (m.stepAt 5).2.pc.toNat = (m.pc.toNat + 4) % 4096 := congrArg Numbers.pc hmakes.numbers
    _ = 0x003 := by rw [hpc]; rfl

end Machine

/-! ### Runs in numbers

A framebuffer hands out the same key until another one is pressed. So the numbers and the key are all
that a run on it depends on while its words have rows, and the machine need not be run to find out
what becomes of them. -/

namespace Numbers

/-- The change that the table asks for, if the word has a row. -/
def change? (s : Numbers) (key : Option Nat) : Option Change :=
  ((s.table key).find? fun row => Instruction.Fits row.1 (UInt16.ofNat s.word)).map Prod.snd

/-- The numbers and the key after an act, unless it is a step and its word has no row. -/
def act? (s : Numbers × Option Nat) : Act → Option (Numbers × Option Nat)
  | .step _ => (s.1.change? s.2).map fun change => (s.1.after change, s.2)
  | .tick => some ({ s.1 with delay := s.1.delay - 1 }, s.2)
  | .hold key => some (s.1, key.map fun key => key.toNat % 16)

/-- The numbers and the key after a run. -/
def play? (s : Numbers × Option Nat) (acts : List Act) : Option (Numbers × Option Nat) :=
  acts.foldlM act? s

end Numbers

namespace Machine

open Instruction (Fits)

variable {m : Machine FrameBuffer} {s : Numbers × Option Nat}

/-- What the table looks at, and the key that is held. -/
def observed (m : Machine FrameBuffer) : Numbers × Option Nat :=
  (m.numbers, m.display.key.map UInt8.toNat)

theorem Sound.makes_of_change? (h : m.Sound) {change : Change}
    (hchange : m.numbers.change? m.observed.2 = some change) : Makes m change m.step := by
  obtain ⟨⟨pattern, _⟩, hfind, rfl⟩ := Option.map_eq_some_iff.1 hchange
  have hfits : Fits pattern (UInt16.ofNat m.numbers.word) := of_decide_eq_true <|
    List.find?_some (p := fun row : String × Change => Fits row.1 (UInt16.ofNat _)) hfind
  rw [← h.toNat_word, UInt16.ofNat_toNat] at hfits
  exact h.makes_of_mem_table (List.mem_of_find?_eq_some hfind) hfits

theorem Makes.observed_eq {change : Change} {outcome : Outcome FrameBuffer}
    (h : Makes m change outcome) : outcome.2.observed = (m.numbers.after change, m.observed.2) := by
  have hdisplay : outcome.2.display = m.display := h.display.trans (ite_self m.display)
  rw [observed, h.numbers, hdisplay]
  rfl

theorem Sound.observed_act (h : m.Sound) {a : Act} (hact : Numbers.act? m.observed a = some s) :
    (m.answer a).1 = .ok () ∧ (m.act a).observed = s := by
  cases a with
  | step now =>
      obtain ⟨change, hchange, rfl⟩ := Option.map_eq_some_iff.1 hact
      have hmakes := h.makes_of_change? hchange
      rw [← stepAt_of_ungated h.ungated now] at hmakes
      exact ⟨hmakes.ok, hmakes.observed_eq⟩
  | tick =>
      cases hact
      have hdelay : m.tick.numbers = { m.numbers with delay := m.numbers.delay - 1 } := by
        show { m.numbers with delay := (lessOrZero m.timers.delay 1).toNat } = _
        rw [toNat_lessOrZero]
        rfl
      exact ⟨rfl, congrArg (·, m.observed.2) hdelay⟩
  | hold key =>
      cases hact
      refine ⟨rfl, congrArg (m.numbers, ·) ?_⟩
      cases key with
      | none => rfl
      | some key => exact congrArg some (FrameBuffer.toNat_and_fifteen key)

/-- The numbers tell where a run leads, and that none of its acts fails. -/
theorem Sound.observed_play (h : m.Sound) {acts : List Act}
    (hplay : Numbers.play? m.observed acts = some s) :
    (∀ answer ∈ m.answers acts, answer = .ok ()) ∧ (m.play acts).observed = s := by
  induction acts generalizing m with
  | nil => exact ⟨List.forall_mem_nil _, Option.some.inj hplay⟩
  | cons a acts ih =>
      obtain ⟨next, hact, hrest⟩ := Option.bind_eq_some_iff.1 hplay
      obtain ⟨hok, rfl⟩ := h.observed_act hact
      obtain ⟨hanswers, hend⟩ := ih (h.act a) hrest
      exact ⟨List.forall_mem_cons.2 ⟨hok, hanswers⟩, hend⟩

end Machine

end Chip8
