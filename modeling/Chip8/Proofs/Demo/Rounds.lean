import Chip8.Proofs.Demo.Digits

/-!
How the built-in program goes on over time. Round after round it draws a digit, sets the delay
timer, waits until the timer has run out, and erases the digit. A run is told in marks, one for each
of these and one for each tick, and two things are said about them: which comes after which, and
how many ticks stand before an erasure.

Both need a history beside the machine. The number of marks so far settles the place and the digit
(`Counted`). The ticks since the timer was set make up for what is gone from it, and that holds
through the loop at 210, however often it turns and however late it reads the timer (`Waiting`).
-/

namespace Chip8.Demo

/-! ### Marks -/

/-- What a drawing goes by. -/
structure Figure where
  /-- V0 -/
  digit : UInt8
  /-- V1 -/
  column : UInt8
  /-- V2 -/
  row : UInt8
  /-- I -/
  index : UInt16
  deriving DecidableEq

/-- What a run of the program is told by. -/
inductive Mark
  /-- The drawing at 20A. -/
  | drawn (f : Figure)
  /-- The delay timer set at 20E. -/
  | armed
  /-- A tick of the timers. -/
  | ticked
  /-- The drawing at 216. -/
  | erased (f : Figure)
  deriving DecidableEq

/-- What is drawn next. -/
def figure (m : Machine FrameBuffer) : Figure where
  digit := m.reg 0
  column := m.reg 1
  row := m.reg 2
  index := m.index

/-- What an act is told by. -/
def mark? (m : Machine FrameBuffer) : Act → Option Mark
  | .step _ =>
    if m.pc = 0x20A then some (.drawn (figure m))
    else if m.pc = 0x20E then some .armed
    else if m.pc = 0x216 then some (.erased (figure m))
    else none
  | .tick => some .ticked
  | .hold _ => none

/-- The marks of a run, oldest first. -/
def marks (m : Machine FrameBuffer) : List Act → List Mark
  | [] => []
  | a :: acts => (mark? m a).toList ++ marks (m.act a) acts

/-- The figure of round `n`: the digits come one after the other, and after the last the first. -/
def Figure.ofRound (n : Nat) : Figure where
  digit := UInt8.ofNat (n % 16)
  column := 28
  row := 13
  index := UInt16.ofNat (0x50 + 5 * (n % 16))

/-- What is done in round `n`, besides waiting. -/
def round (n : Nat) : List Mark :=
  [.drawn (.ofRound n), .armed, .erased (.ofRound n)]

/-- A timer that was set is given time before the next erasure. -/
def Spaced (history : List Mark) : Prop :=
  ∀ pre mid post f, history = pre ++ .armed :: mid ++ .erased f :: post → 30 ≤ mid.count .ticked

/-! ### The pattern -/

/-- Mark `c` of all rounds, without the ticks. -/
def nth (c : Nat) : Mark :=
  match c % 3 with
  | 0 => .drawn (.ofRound (c / 3))
  | 1 => .armed
  | _ => .erased (.ofRound (c / 3))

theorem nth_ne_ticked (c : Nat) : nth c ≠ .ticked := by
  unfold nth
  split <;> exact Mark.noConfusion

theorem nth_mul_three (n : Nat) :
    [nth (3 * n), nth (3 * n + 1), nth (3 * n + 2)] = round n := by
  have h0 : 3 * n % 3 = 0 ∧ 3 * n / 3 = n := by omega
  have h1 : (3 * n + 1) % 3 = 1 := by omega
  have h2 : (3 * n + 2) % 3 = 2 ∧ (3 * n + 2) / 3 = n := by omega
  simp only [nth, round, h0, h1, h2]

theorem map_nth_range (n : Nat) :
    (List.range (3 * n)).map nth = (List.range n).flatMap round := by
  induction n with
  | zero => rfl
  | succ n ih =>
      rw [List.range_succ, List.flatMap_append, List.flatMap_singleton, ← ih, ← nth_mul_three]
      simp only [Nat.mul_succ, List.range_succ, List.map_append, List.map_cons, List.map_nil,
        List.append_assoc, List.cons_append, List.nil_append]

theorem map_nth_prefix (c : Nat) :
    (List.range c).map nth <+: (List.range c).flatMap round := by
  have hrange : (List.range (3 * c)).take c = List.range c := by
    rw [List.take_range, Nat.min_eq_left (by omega)]
  rw [← map_nth_range, ← hrange]
  exact (List.take_prefix c _).map nth

/-! ### The history -/

/-- The ticks since the timer was last set, from those before. -/
def tally (t : Nat) : Mark → Nat
  | .armed => 0
  | .ticked => t + 1
  | _ => t

/-- The ticks since the timer was last set. -/
def sinceArmed (history : List Mark) : Nat :=
  history.foldl tally 0

theorem sinceArmed_snoc (history : List Mark) (mark : Mark) :
    sinceArmed (history ++ [mark]) = tally (sinceArmed history) mark := by
  simp [sinceArmed]

theorem foldl_tally_le (t : Nat) (history : List Mark) :
    history.foldl tally t ≤ t + history.count .ticked := by
  induction history generalizing t with
  | nil => exact Nat.le_refl t
  | cons mark history ih =>
      have htally : tally t mark + history.count .ticked ≤ t + (mark :: history).count .ticked := by
        cases mark <;> simp [tally]
        omega
      exact Nat.le_trans (ih (tally t mark)) htally

/-- All ticks since the timer was last set are among those since it was set some time. -/
theorem sinceArmed_le (pre mid : List Mark) :
    sinceArmed (pre ++ .armed :: mid) ≤ mid.count .ticked := by
  have h := foldl_tally_le 0 mid
  rw [Nat.zero_add] at h
  rw [sinceArmed, List.foldl_append, List.foldl_cons]
  exact h

theorem spaced_nil : Spaced [] := by
  intro pre mid post f h
  simp at h

/-- An erasure is the end of a wait that was long enough. -/
theorem Spaced.snoc {history : List Mark} (h : Spaced history) {mark : Mark}
    (hmark : ∀ f, mark = .erased f → 30 ≤ sinceArmed history) : Spaced (history ++ [mark]) := by
  intro pre mid post f heq
  rcases List.eq_nil_or_concat post with rfl | ⟨post, last, rfl⟩
  · obtain ⟨rfl, hlast⟩ := List.append_inj' heq rfl
    exact Nat.le_trans (hmark f (List.singleton_inj.1 hlast)) (sinceArmed_le pre mid)
  · have hsplit : history ++ [mark] = (pre ++ .armed :: mid ++ .erased f :: post) ++ [last] := by
      simpa using heq
    exact h pre mid post f (List.append_inj' hsplit rfl).1

/-! ### What the marks tell about the machine -/

/-- How many marks there are before the instruction at place `k`, and which digit that makes. -/
def Counted (c digit : Nat) : Nat → Prop
  | 0 | 1 => c = 0
  | 2 | 3 | 4 | 5 | 15 => c % 3 = 0 ∧ digit = c / 3 % 16
  | 6 | 7 => c % 3 = 1 ∧ digit = c / 3 % 16
  | 8 | 9 | 10 | 11 => c % 3 = 2 ∧ digit = c / 3 % 16
  | 12 => c % 3 = 0 ∧ (digit + 1) % 16 = c / 3 % 16
  | 13 => c % 3 = 0 ∧ digit % 16 = c / 3 % 16
  | 14 => c % 3 = 0 ∧ c / 3 % 16 = 0
  | _ => False

/-- What is left of the delay, `t` ticks after it was set to thirty. -/
def Waiting (t : Nat) (s : State) : Nat → Prop
  | 7 => s.left = 30
  | 8 | 10 => 30 ≤ s.delay.toNat + t
  | 9 => 30 ≤ s.delay.toNat + t ∧ 30 ≤ s.left.toNat + t
  | 11 => 30 ≤ t
  | _ => True

/-- Whether the instruction at place `k` leaves a mark. -/
def Marked (k : Nat) : Prop :=
  k = 5 ∨ k = 7 ∨ k = 11

instance (k : Nat) : Decidable (Marked k) :=
  inferInstanceAs (Decidable (_ ∨ _))

variable {b : Blueprint} {size : DisplaySize} {s : State} {k c t : Nat}

theorem figure_eq {m : Machine FrameBuffer} {n : Nat} (haimed : (look m).Aimed)
    (hdigit : (m.reg 0).toNat = n % 16) : figure m = .ofRound n := by
  obtain ⟨⟨hcolumn, hrow⟩, -, hindex⟩ := haimed
  have hindex : m.index = fontAddr + 5 * ((m.reg 0).toUInt16 &&& 0xF) := hindex
  have hlt := Nat.mod_lt n (show 0 < 16 by decide)
  have hdigit' : m.reg 0 = UInt8.ofNat (n % 16) := by
    rw [← hdigit, UInt8.ofNat_toNat]
  have hindex' : m.index = UInt16.ofNat (0x50 + 5 * (n % 16)) := by
    apply UInt16.toNat_inj.1
    rw [hindex, Machine.toNat_glyphAddr, hdigit, UInt16.toNat_ofNat', Nat.mod_mod,
      Nat.mod_eq_of_lt (show 0x50 + 5 * (n % 16) < 2 ^ 16 by omega)]
  rw [figure, Figure.ofRound, hdigit', hindex']
  exact congrArg₂ (Figure.mk _ · · _) hcolumn hrow

/-- The mark that an instruction leaves is the next of the pattern. -/
theorem mark?_step {m : Machine FrameBuffer} (h : Running b m k)
    (hcounted : Counted c (m.reg 0).toNat k) (now : Nat) :
    mark? m (.step now) = if Marked k then some (nth c) else none := by
  have hplace (a : UInt16) : m.pc = a ↔ 0x200 + 2 * k = a.toNat := by
    rw [← UInt16.toNat_inj, h.pc_eq, toNat_place k h.place_lt]
  have hdraw : m.pc = 0x20A ↔ k = 5 := (hplace _).trans (show _ = 0x20A ↔ _ by omega)
  have harm : m.pc = 0x20E ↔ k = 7 := (hplace _).trans (show _ = 0x20E ↔ _ by omega)
  have herase : m.pc = 0x216 ↔ k = 11 := (hplace _).trans (show _ = 0x216 ↔ _ by omega)
  have hstanding := h.standing
  unfold mark?
  simp only [hdraw, harm, herase]
  by_cases hk : Marked k
  · rw [if_pos hk]
    rcases hk with rfl | rfl | rfl
    all_goals obtain ⟨hc, hdigit⟩ := hcounted
    all_goals simp only [nth, hc]
    · exact congrArg (some ∘ Mark.drawn) (figure_eq hstanding.2 hdigit)
    · rfl
    · exact congrArg (some ∘ Mark.erased) (figure_eq hstanding.1 hdigit)
  · rw [if_neg hk, if_neg fun h => hk (.inl h), if_neg fun h => hk (.inr (.inl h)),
      if_neg fun h => hk (.inr (.inr h))]

theorem tally_nth {digit : Nat} (hk : Marked k) (h : Counted c digit k) (t : Nat) :
    tally t (nth c) = if k = 7 then 0 else t := by
  rcases hk with rfl | rfl | rfl
  all_goals obtain ⟨hc, -⟩ := h
  all_goals simp only [nth, hc]
  all_goals rfl

theorem eq_of_nth_erased {digit : Nat} (hk : Marked k) (h : Counted c digit k) {f : Figure}
    (hnth : nth c = .erased f) : k = 11 := by
  rcases hk with rfl | rfl | rfl
  · obtain ⟨hc, -⟩ := h
    simp [nth, hc] at hnth
  · obtain ⟨hc, -⟩ := h
    simp [nth, hc] at hnth
  · rfl

theorem counted_next (hstanding : Standing b size s k) (h : Counted c s.digit.toNat k) :
    Counted (if Marked k then c + 1 else c) (next b size k s).2.digit.toNat
      (next b size k s).1 := by
  match k with
  | 0 | 2 | 3 | 4 | 8 | 10 | 15 => exact h
  | 1 =>
      obtain rfl : c = 0 := h
      exact ⟨rfl, rfl⟩
  | 5 | 7 =>
      obtain ⟨hc, hdigit⟩ := h
      exact ⟨show (c + 1) % 3 = _ by omega, show s.digit.toNat = (c + 1) / 3 % 16 by omega⟩
  | 6 => exact h
  | 9 =>
      show Counted c s.digit.toNat (if s.left = 0 then 11 else 10)
      split_ifs <;> exact h
  | 11 =>
      obtain ⟨hc, hdigit⟩ := h
      exact ⟨show (c + 1) % 3 = 0 by omega,
        show (s.digit.toNat + 1) % 16 = (c + 1) / 3 % 16 by omega⟩
  | 12 =>
      obtain ⟨hc, hdigit⟩ := h
      obtain ⟨-, hlt, -⟩ := hstanding
      refine ⟨hc, ?_⟩
      show (s.digit + 1).toNat % 16 = c / 3 % 16
      rw [UInt8.toNat_add]
      show (s.digit.toNat + 1) % 256 % 16 = c / 3 % 16
      omega
  | 13 =>
      obtain ⟨hc, hdigit⟩ := h
      obtain ⟨-, hle, -⟩ := hstanding
      show Counted c s.digit.toNat (if s.digit = 16 then 14 else 15)
      split_ifs with hlast
      · rw [hlast] at hdigit
        exact ⟨hc, hdigit.symm⟩
      · have hne : s.digit.toNat ≠ 16 := fun he => hlast (UInt8.toNat_inj.1 he)
        exact ⟨hc, by omega⟩
  | 14 =>
      obtain ⟨hc, hzero⟩ := h
      exact ⟨hc, hzero.symm⟩
  | k + 16 => exact h.elim

theorem waiting_next (b : Blueprint) (size : DisplaySize) (h : Waiting t s k) :
    Waiting (if k = 7 then 0 else t) (next b size k s).2 (next b size k s).1 := by
  match k with
  | 0 | 1 | 2 | 3 | 4 | 5 | 11 | 12 | 14 => trivial
  | 6 => rfl
  | 7 =>
      have hleft : s.left = 30 := h
      show 30 ≤ s.left.toNat + 0
      rw [hleft]
      decide
  | 8 => exact ⟨h, h⟩
  | 9 =>
      obtain ⟨hdelay, hleft⟩ := h
      show Waiting t s (if s.left = 0 then 11 else 10)
      split_ifs with hover
      · -- The timer was found run out, so all of it is in the ticks.
        rw [hover] at hleft
        exact Nat.zero_add t ▸ hleft
      · exact hdelay
  | 10 => exact h
  | 13 =>
      show Waiting t s (if s.digit = 16 then 14 else 15)
      split_ifs <;> trivial
  | k + 15 => trivial

theorem waiting_tick {m : Machine FrameBuffer} (h : Waiting t (look m) k) :
    Waiting (t + 1) (look m.tick) k := by
  have hdelay : (look m.tick).delay.toNat = (look m).delay.toNat - 1 := toNat_lessOrZero _ 1
  match k with
  | 7 => exact h
  | 8 | 10 =>
      have h : 30 ≤ (look m).delay.toNat + t := h
      show 30 ≤ (look m.tick).delay.toNat + (t + 1)
      omega
  | 9 =>
      obtain ⟨h, hleft⟩ := h
      exact ⟨show 30 ≤ (look m.tick).delay.toNat + (t + 1) by omega, Nat.le_succ_of_le hleft⟩
  | 11 => exact Nat.le_succ_of_le h
  | 0 | 1 | 2 | 3 | 4 | 5 | 6 | 12 | 13 | 14 => trivial
  | k + 15 => trivial

/-! ### Every run -/

/-- A machine that runs the program, before the instruction at place `k`, and the marks so far. -/
structure Recorded (b : Blueprint) (m : Machine FrameBuffer) (k : Nat) (history : List Mark) :
    Prop where
  running : Running b m k
  pattern : ∃ c, history.filter (· ≠ .ticked) = (List.range c).map nth ∧
    Counted c (m.reg 0).toNat k
  waiting : Waiting (sinceArmed history) (look m) k
  spaced : Spaced history

namespace Recorded

variable {m : Machine FrameBuffer} {history : List Mark}

theorem step (h : Recorded b m k history) (now : Nat) :
    Recorded b (m.stepAt now).2 (next b m.size k (look m)).1
      (history ++ (mark? m (.step now)).toList) := by
  obtain ⟨-, hrunning, hlook⟩ := h.running.stepAt_next now
  obtain ⟨c, hpattern, hcounted⟩ := h.pattern
  have hmark := mark?_step h.running hcounted now
  have hcounted' : Counted _ (look m).digit.toNat k := hcounted
  replace hcounted' := counted_next h.running.standing hcounted'
  have hwaiting' := waiting_next b m.size h.waiting
  rw [← hlook] at hcounted' hwaiting'
  by_cases hk : Marked k
  · rw [if_pos hk] at hmark hcounted'
    rw [hmark]
    constructor
    · exact hrunning
    · refine ⟨c + 1, ?_, hcounted'⟩
      rw [List.filter_append, hpattern, List.range_succ, List.map_append]
      exact congrArg (_ ++ ·) (List.filter_eq_self.2 (by simpa using nth_ne_ticked c))
    · rw [Option.toList_some, sinceArmed_snoc, tally_nth hk hcounted]
      exact hwaiting'
    · refine h.spaced.snoc fun f hf => ?_
      obtain rfl := eq_of_nth_erased hk hcounted hf
      exact h.waiting
  · rw [if_neg hk] at hmark hcounted'
    rw [if_neg fun heq => hk (.inr (.inl heq))] at hwaiting'
    rw [hmark, Option.toList_none, List.append_nil]
    exact ⟨hrunning, ⟨c, hpattern, hcounted'⟩, hwaiting', h.spaced⟩

theorem tick (h : Recorded b m k history) : Recorded b m.tick k (history ++ [.ticked]) := by
  constructor
  · exact h.running.tick
  · obtain ⟨c, hpattern, hcounted⟩ := h.pattern
    refine ⟨c, ?_, hcounted⟩
    rw [List.filter_append, hpattern]
    exact List.append_nil _
  · rw [sinceArmed_snoc]
    exact waiting_tick h.waiting
  · exact h.spaced.snoc nofun

theorem hold (h : Recorded b m k history) (key : Option UInt8) :
    Recorded b (m.act (.hold key)) k history := by
  have hlook : look (m.act (.hold key)) = look m := look_hold m key
  exact ⟨h.running.hold key, h.pattern, hlook ▸ h.waiting, h.spaced⟩

theorem act (h : Recorded b m k history) (a : Act) :
    ∃ k', Recorded b (m.act a) k' (history ++ (mark? m a).toList) := by
  cases a with
  | step now => exact ⟨_, h.step now⟩
  | tick => exact ⟨k, h.tick⟩
  | hold key =>
      refine ⟨k, ?_⟩
      rw [mark?, Option.toList_none, List.append_nil]
      exact h.hold key

theorem play (h : Recorded b m k history) (acts : List Act) :
    ∃ k', Recorded b (m.play acts) k' (history ++ marks m acts) := by
  induction acts generalizing m k history with
  | nil => exact ⟨k, by rw [marks, List.append_nil]; exact h⟩
  | cons a acts ih =>
      obtain ⟨k₁, h₁⟩ := h.act a
      obtain ⟨k', h'⟩ := ih h₁
      refine ⟨k', ?_⟩
      rw [marks, ← List.append_assoc]
      exact h'

end Recorded

/-- The built-in program over time, at whatever times the timers are ticked. Its rounds come one
after the other: the figure of round `n`, which is the digit `n` modulo sixteen, is drawn, the timer
is set, and the same figure is erased. From each time that the timer is set to each erasure after
it there are thirty ticks or more. -/
theorem marks_demoProgram (program : b.program = demoProgram) (ungated : b.gated = false)
    (font : b.font.length ≤ 80) (around : Blueprint.Surroundings) (fb : FrameBuffer)
    (width_pos : 0 < fb.size.width) (height_pos : 0 < fb.size.height) :
    ∃ m, b.build around fb = .ok m ∧ ∀ acts,
      (∃ rounds, (marks m acts).filter (· ≠ .ticked) <+: (List.range rounds).flatMap round) ∧
      ∀ pre mid post f, marks m acts = pre ++ .armed :: mid ++ .erased f :: post →
        30 ≤ mid.count .ticked := by
  obtain ⟨hbuild, hrunning⟩ := build_running program ungated font around fb width_pos height_pos
  have hstart : Recorded b (b.machine around fb fb.size) 0 [] :=
    ⟨hrunning, ⟨0, rfl, rfl⟩, trivial, spaced_nil⟩
  refine ⟨_, hbuild, fun acts => ?_⟩
  obtain ⟨k, h⟩ := hstart.play acts
  rw [List.nil_append] at h
  obtain ⟨c, hpattern, -⟩ := h.pattern
  refine ⟨⟨c, ?_⟩, h.spaced⟩
  rw [hpattern]
  exact map_nth_prefix c

/-- Thirty ticks that come after the timer was read once: it is read again, and the next digit is
drawn. -/
theorem marks_demoProgram_nextDigit :
    let frame := FrameBuffer.new ⟨6, 7⟩
    let acts := List.replicate 9 (.step 0) ++ List.replicate 30 .tick ++ List.replicate 10 (.step 1)
    ∃ m, oneGlyph.build {} frame = .ok m ∧
      marks m acts = [.drawn (.ofRound 0)] ++ .armed :: List.replicate 30 .ticked ++
        .erased (.ofRound 0) :: [.drawn (.ofRound 1)] ∧
      (∃ rounds, round 0 ++ [.drawn (.ofRound 1)] <+: (List.range rounds).flatMap round) ∧
      30 ≤ (List.replicate 30 Mark.ticked).count .ticked := by
  intro frame acts
  obtain ⟨m, hbuild, hplay⟩ := marks_demoProgram (b := oneGlyph) rfl rfl (by decide) {} frame
    (by decide) (by decide)
  obtain ⟨-, rfl⟩ := Blueprint.build_eq_ok_iff.1 hbuild
  obtain ⟨⟨rounds, hrounds⟩, hspaced⟩ := hplay acts
  have hmarks : marks (oneGlyph.machine {} frame ⟨6, 7⟩) acts = [.drawn (.ofRound 0)] ++
      .armed :: List.replicate 30 .ticked ++ .erased (.ofRound 0) :: [.drawn (.ofRound 1)] := by
    decide +kernel
  refine ⟨_, hbuild, hmarks, ⟨rounds, ?_⟩, hspaced _ _ _ _ hmarks⟩
  have hmarks : marks (oneGlyph.machine {} frame (Display.size frame)) acts = _ := hmarks
  rw [hmarks] at hrounds
  exact hrounds

end Chip8.Demo
