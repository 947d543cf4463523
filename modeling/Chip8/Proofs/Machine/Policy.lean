import Chip8.Proofs.Machine.Transport
import Mathlib.Data.List.Infix

/-!
Where the compatibility policy is consulted. Two machines that differ in their policy alone do the
same as long as the first never comes to an instruction whose outcome the policy decides: a shift
between registers that differ, a jump with offset whose two readings lead to different places, or a
sprite that reaches below the bottom edge (`indifferent`). Nothing else looks at it.

The two runs are not compared step by step with two states at hand. The second machine is the first
under another policy (`under`), and the lemmas say that `under` goes past whatever the first one
does.
-/

namespace Chip8.Machine

variable {D : Type}

/-- The same machine under another policy. -/
def under (m : Machine D) (c : Compatibility) : Machine D :=
  { m with compat := c }

def Outcome.under (outcome : Outcome D) (c : Compatibility) : Outcome D :=
  (outcome.1, outcome.2.under c)

/-- Whether the instruction, executed now, comes out the same under every policy. -/
def indifferent (m : Machine D) : Instruction → Bool
  | .shiftRight x y | .shiftLeft x y => m.reg x = m.reg y
  | .jumpOffset nnn =>
    address (nnn + (m.reg 0).toUInt16) =
      address ((nnn &&& 0xFF) + (m.reg (Opcode.nibble nnn 1)).toUInt16)
  | .draw _ y n => (m.reg y).toNat % m.size.height + n ≤ m.size.height
  | _ => true

/-- Whether the next step comes out the same under every policy. -/
def neutral (m : Machine D) : Bool :=
  m.instruction?.all m.indifferent

/-! ### The three places -/

theorem shiftSource_under (m : Machine D) (c : Compatibility) {x y : Nibble}
    (h : decide (m.reg x = m.reg y)) : (m.under c).shiftSource x y = m.shiftSource x y := by
  have hsame := of_decide_eq_true h
  have hmode : (m.under c).compat.mode = c.mode := rfl
  unfold shiftSource
  rw [hmode]
  cases c.mode <;> cases m.compat.mode
  · rfl
  · exact hsame.symm
  · exact hsame
  · rfl

theorem offsetTarget_under (m : Machine D) (c : Compatibility) {nnn : UInt16}
    (h : m.indifferent (.jumpOffset nnn)) :
    (m.under c).offsetTarget nnn = m.offsetTarget nnn := by
  have h := of_decide_eq_true h
  have hmode : (m.under c).compat.mode = c.mode := rfl
  unfold offsetTarget
  rw [hmode]
  cases c.mode <;> cases m.compat.mode
  · rfl
  · exact h
  · exact h.symm
  · rfl

/-- A row above the bottom edge is drawn where it is, whatever becomes of those below. -/
theorem spriteRow_of_lt (c : Compatibility) {base offset height : Nat}
    (h : base + offset < height) : c.spriteRow base offset height = some (base + offset) := by
  unfold Compatibility.spriteRow
  cases c.vertical with
  | wrap => rw [Nat.mod_eq_of_lt h]
  | skip => exact if_pos h

theorem spriteDots_under (m : Machine D) (c : Compatibility) {x y n : Nibble}
    (h : m.indifferent (.draw x y n)) : (m.under c).spriteDots x y n = m.spriteDots x y n := by
  unfold spriteDots
  rw [List.flatMap_def, List.flatMap_def]
  refine congrArg List.flatten (List.map_congr_left fun k hk => ?_)
  have hrow : (m.reg y).toNat % m.size.height + k < m.size.height := by
    have hk := List.mem_range.1 hk
    have hfits : (m.reg y).toNat % m.size.height + n ≤ m.size.height := of_decide_eq_true h
    omega
  have hunder : (m.under c).compat.spriteRow (((m.under c).reg y).toNat % (m.under c).size.height) k
      (m.under c).size.height = _ := spriteRow_of_lt c hrow
  rw [hunder, spriteRow_of_lt m.compat hrow]
  rfl

/-- The machine under another policy is the machine in another guise. -/
def policy (D : Type) (c : Compatibility) : Guise D D where
  display := id
  compat _ := c

theorem keeps_policy [Display D] {m : Machine D} {i : Instruction} (h : m.indifferent i)
    (c : Compatibility) : (policy D c).Keeps m i := by
  cases i with
  | shiftRight x y | shiftLeft x y => exact shiftSource_under m c h
  | jumpOffset nnn => exact offsetTarget_under m c h
  | draw x y n => exact ⟨spriteDots_under m c h, rfl⟩
  | clear | skipKey | skipNotKey | waitKey | loadDelay | setDelay | setSound => rfl
  | random => exact ⟨rfl, rfl⟩
  | _ => trivial

/-! ### A run -/

theorem stepAt_under [Display D] {m : Machine D} (h : m.neutral) (c : Compatibility) (now : Nat) :
    (m.under c).stepAt now = Outcome.under (m.stepAt now) c := by
  refine stepAt_inGuise (v := policy D c) rfl fun i hi => ?_
  -- Neither the gate nor moving on changes the registers or the size.
  have hindifferent : (m.passed now).indifferent i := by
    rw [neutral, hi] at h
    cases i <;> exact h
  exact keeps_policy hindifferent c

variable [Attended D] {m : Machine D}

theorem answer_under {a : Act} (h : ∀ now, a = .step now → m.neutral) (c : Compatibility) :
    (m.under c).answer a = Outcome.under (m.answer a) c := by
  cases a with
  | step now => exact stepAt_under (h now rfl) c now
  | tick => rfl
  | hold key => rfl

/-- How the acts of a run end, one after the other. -/
def answers (m : Machine D) : List Act → List (Except Error Unit)
  | [] => []
  | a :: acts => (m.answer a).1 :: (m.act a).answers acts

theorem play_under (c : Compatibility) {acts : List Act}
    (h : ∀ pre now, pre ++ [.step now] <+: acts → (m.play pre).neutral) :
    (m.under c).play acts = (m.play acts).under c ∧
      (m.under c).answers acts = m.answers acts := by
  induction acts generalizing m with
  | nil => exact ⟨rfl, rfl⟩
  | cons a acts ih =>
      have hanswer : (m.under c).answer a = Outcome.under (m.answer a) c := by
        refine answer_under ?_ c
        rintro now rfl
        exact h [] now (List.cons_prefix_cons.2 ⟨rfl, List.nil_prefix⟩)
      have hact : (m.under c).act a = (m.act a).under c := congrArg Prod.snd hanswer
      obtain ⟨hplay, hanswers⟩ := ih (m := m.act a) fun pre now hpre =>
        h (a :: pre) now (List.cons_prefix_cons.2 ⟨rfl, hpre⟩)
      constructor
      · rw [play_cons, hact]
        exact hplay
      · rw [answers, answers, hact, hanswers, hanswer]
        rfl

/-- Whatever policy a machine was built with, under another one it is the same machine for as long
as no step is one that the policy decides: the acts of a run end alike, and after each of them
everything but the policy is equal. -/
theorem play_under_policy {b : Blueprint} {around : Blueprint.Surroundings} {display : D}
    (h : b.build around display = .ok m) (c : Compatibility) :
    ∃ m', Blueprint.build { b with compat := c } around display = .ok m' ∧
      ∀ acts, (∀ pre now, pre ++ [.step now] <+: acts → (m.play pre).neutral) →
        m'.answers acts = m.answers acts ∧
          ∀ pre, pre <+: acts → m'.play pre = (m.play pre).under c := by
  obtain ⟨hfits, rfl⟩ := Blueprint.build_eq_ok_iff.1 h
  have hfits' : Blueprint.Fits { b with compat := c } (Display.size display) := { hfits with }
  refine ⟨_, Blueprint.build_eq_ok_iff.2 ⟨hfits', rfl⟩, fun acts hneutral => ⟨?_, ?_⟩⟩
  · exact (play_under c hneutral).2
  · intro pre hpre
    exact (play_under c fun before now hbefore => hneutral before now (hbefore.trans hpre)).1

/-- Draws on the last row, shifts with equal registers, and jumps with an offset. -/
def undecided : Blueprint :=
  { program := [0x61, 0x03, 0xA0, 0x50, 0xD1, 0x11, 0x80, 0x26, 0xB0, 0xFF], gated := false }

/-- Both machines end up at 0FF, with a pixel lit in the last row. -/
theorem play_under_policy_undecided :
    let frame := FrameBuffer.new ⟨8, 4⟩
    let m := undecided.machine {} frame ⟨8, 4⟩
    let c : Compatibility := { mode := .cosmacVip, vertical := .wrap }
    let acts := [.step 0, .step 1, .hold (some 1), .step 2, .step 3, .step 4]
    undecided.build {} frame = .ok m ∧
      (∀ pre now, pre ++ [.step now] <+: acts → (m.play pre).neutral) ∧
      ((m.play acts).pc = 0x0FF ∧ (m.play acts).display.lit 3 3) ∧ undecided.compat ≠ c ∧
      ∃ m', Blueprint.build { undecided with compat := c } {} frame = .ok m' ∧
        m'.answers acts = m.answers acts ∧ m'.play acts = (m.play acts).under c := by
  intro frame m c acts
  have hbuild : undecided.build {} frame = .ok m := rfl
  have hinits : ∀ pre ∈ acts.inits, (m.play pre).neutral := by decide +kernel
  have hneutral : ∀ pre now, pre ++ [.step now] <+: acts → (m.play pre).neutral := by
    intro pre now hpre
    exact hinits pre ((List.mem_inits _ _).2 ((List.prefix_append _ _).trans hpre))
  obtain ⟨m', hbuild', hrun⟩ := play_under_policy hbuild c
  obtain ⟨hanswers, hplay⟩ := hrun acts hneutral
  exact ⟨hbuild, hneutral, by decide +kernel, by decide, m', hbuild', hanswers,
    hplay acts List.prefix_rfl⟩

end Chip8.Machine
