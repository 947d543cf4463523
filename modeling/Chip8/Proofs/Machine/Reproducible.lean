import Chip8.Proofs.Machine.Ticks
import Chip8.Proofs.Machine.Transport

/-!
What a run owes to the seed and to the keys. Random words and keys come in through four
instructions, and nothing else lets them in: as long as none of these is executed, a run under
another seed and with other keys is the same run (`play_blinded`).

Nor does anything else use the generator up. The words that a run draws are those of the stream of
its seed, from the first one on and without a gap, whatever it does between two draws
(`eq_word_of_rolled`).

The key is taken from the machine by releasing it, and the generator by putting any other one in its
place (`blinded`). It is a guise that every instruction keeps that asks for neither, since the pixels
of a display have nothing to do with its keypad (`LawfulAttended`).
-/

namespace Chip8

/-- A display whose pixels have nothing to do with the key that is held. -/
class LawfulAttended (D : Type) [Attended D] : Prop where
  readPixel : ∀ (d : D) row col, Display.readPixel (Attended.hold none d) row col =
    ((Display.readPixel d row col).1, Attended.hold none (Display.readPixel d row col).2)
  setPixel : ∀ (d : D) row col lit, Display.setPixel (Attended.hold none d) row col lit =
    ((Display.setPixel d row col lit).1, Attended.hold none (Display.setPixel d row col lit).2)
  refresh : ∀ d : D, Display.refresh (Attended.hold none d) =
    ((Display.refresh d).1, Attended.hold none (Display.refresh d).2)
  hold : ∀ key (d : D), Attended.hold none (Attended.hold key d) = Attended.hold none d

theorem FrameBuffer.pixel_releaseKey (fb : FrameBuffer) (row col : Nat) :
    fb.releaseKey.pixel row col = fb.pixel row col := by
  have hindex : fb.releaseKey.index? row col = fb.index? row col := rfl
  unfold pixel
  rw [hindex]
  cases fb.index? row col <;> rfl

theorem FrameBuffer.setPixel_releaseKey (fb : FrameBuffer) (row col : Nat) (lit : Bool) :
    fb.releaseKey.setPixel row col lit =
      ((fb.setPixel row col lit).1, (fb.setPixel row col lit).2.releaseKey) := by
  have hindex : fb.releaseKey.index? row col = fb.index? row col := rfl
  unfold setPixel
  rw [hindex]
  cases fb.index? row col <;> rfl

instance : LawfulAttended FrameBuffer where
  readPixel fb row col := congrArg (·, fb.releaseKey) (fb.pixel_releaseKey row col)
  setPixel := FrameBuffer.setPixel_releaseKey
  refresh _ := rfl
  hold key _ := by cases key <;> rfl

instance : LawfulAttended Bench where
  readPixel b row col :=
    congrArg (·, { b with frame := b.frame.releaseKey }) (b.frame.pixel_releaseKey row col)
  setPixel b row col lit :=
    congrArg (fun outcome => (outcome.1, { b with frame := outcome.2 }))
      (b.frame.setPixel_releaseKey row col lit)
  refresh b := by
    obtain ⟨_, _, fault, _, _⟩ := b
    cases fault <;> rfl
  hold key _ := by cases key <;> rfl

/-! ### One step -/

/-- Whether the instruction asks for a random word or for a key. -/
def Instruction.consults (i : Instruction) : Bool :=
  i.rolls || i.polls

namespace Machine

variable {D : Type} [Attended D]

/-- The same machine with no key held and with another generator. -/
def blinded (m : Machine D) (g : Random) : Machine D :=
  { m with display := Attended.hold none m.display, random := g }

def Outcome.blinded (outcome : Outcome D) (g : Random) : Outcome D :=
  (outcome.1, outcome.2.blinded g)

/-- The blinded machine is the machine in another guise. -/
def blindfold (D : Type) [Attended D] (g : Random) : Guise D D where
  display := Attended.hold none
  random _ := g

variable [LawfulAttended D]

theorem keeps_blindfold (m : Machine D) (g : Random) {i : Instruction} (h : i.consults = false) :
    (blindfold D g).Keeps m i := by
  have hpixels : PixelHom (Attended.hold none : D → D) :=
    ⟨LawfulAttended.readPixel, LawfulAttended.setPixel⟩
  cases i with
  | random | skipKey | skipNotKey | waitKey => cases h
  | clear => exact hpixels.wipeAndRefresh_eq LawfulAttended.refresh _ _
  | draw => exact ⟨rfl, hpixels.plotAndRefresh_eq LawfulAttended.refresh _ _⟩
  | shiftRight | shiftLeft | jumpOffset | loadDelay | setDelay | setSound => rfl
  | _ => trivial

theorem stepAt_blinded {m : Machine D} (h : ¬ m.comes Instruction.consults) (g : Random)
    (now : Nat) : (m.blinded g).stepAt now = Outcome.blinded (m.stepAt now) g := by
  refine stepAt_inGuise (v := blindfold D g) rfl fun i hi => keeps_blindfold _ g ?_
  rw [comes_of_some hi] at h
  exact Bool.eq_false_iff.2 h

end Machine

/-! ### A run -/

/-- What happens to a machine apart from the keys. -/
def Act.withoutHolds (acts : List Act) : List Act :=
  acts.filter fun a =>
    match a with
    | .hold _ => false
    | _ => true

namespace Machine

variable {D : Type} [Attended D] {m : Machine D} {acts : List Act}

section Lawful

variable [LawfulAttended D]

theorem act_blinded (h : ¬ m.comes Instruction.consults) (g : Random) (now : Nat) :
    (m.blinded g).act (.step now) = (m.act (.step now)).blinded g :=
  congrArg Prod.snd (stepAt_blinded h g now)

theorem blinded_hold (m : Machine D) (g : Random) (key : Option UInt8) :
    (m.act (.hold key)).blinded g = m.blinded g :=
  congrArg (fun display => { m with display, random := g }) (LawfulAttended.hold key m.display)

/-- Which instructions are executed does not depend on seed and keys, until one asks for them. -/
theorem avoids_blinded (m : Machine D) (g : Random) (acts : List Act) :
    Avoids Instruction.consults (m.blinded g) (Act.withoutHolds acts) ↔
      Avoids Instruction.consults m acts := by
  induction acts generalizing m with
  | nil => exact iff_of_true (avoids_nil _ _) (avoids_nil _ _)
  | cons a acts ih =>
      cases a with
      | step now =>
          show Avoids _ _ (.step now :: Act.withoutHolds acts) ↔ _
          rw [avoids_step, avoids_step]
          refine and_congr_right fun hfirst => ?_
          rw [act_blinded (m := m) hfirst]
          exact ih (m.act (.step now))
      | tick =>
          show Avoids _ _ (.tick :: Act.withoutHolds acts) ↔ _
          rw [avoids_tick, avoids_tick]
          exact ih m.tick
      | hold key =>
          rw [avoids_hold, ← blinded_hold m g key]
          exact ih (m.act (.hold key))

/-- Such a run is the run without its keys, on a machine that knows neither seed nor keys. -/
theorem play_blinded (h : Avoids Instruction.consults m acts) (g : Random) :
    (m.blinded g).play (Act.withoutHolds acts) = (m.play acts).blinded g ∧
      (m.blinded g).stepResults (Act.withoutHolds acts) = m.stepResults acts := by
  induction acts generalizing m with
  | nil => exact ⟨rfl, rfl⟩
  | cons a acts ih =>
      cases a with
      | step now =>
          obtain ⟨hfirst, hrest⟩ := avoids_step.1 h
          obtain ⟨hplay, hresults⟩ := ih hrest
          show (m.blinded g).play (.step now :: Act.withoutHolds acts) = _ ∧
            (m.blinded g).stepResults (.step now :: Act.withoutHolds acts) = _
          rw [play_cons, play_cons, stepResults, stepResults, act_blinded hfirst,
            stepAt_blinded hfirst, hresults]
          exact ⟨hplay, rfl⟩
      | tick => exact ih (m := m.tick) (avoids_tick.1 h)
      | hold key =>
          rw [← blinded_hold m g key]
          exact ih (avoids_hold.1 h)

end Lawful

/-! ### The words of the stream -/

/-- What the execution of `CXNN` leaves: the mask NN, and the byte in VX. -/
def roll? (m : Machine D) : Act → Option (UInt8 × UInt8)
  | .step now =>
    match m.instruction? with
    | some (.random x nn) => some (nn, (m.act (.step now)).reg x)
    | _ => none
  | _ => none

/-- What the executions of `CXNN` in a run leave, one after the other. -/
def rolled (m : Machine D) : List Act → List (UInt8 × UInt8)
  | [] => []
  | a :: acts => (m.roll? a).toList ++ (m.act a).rolled acts

/-- A word is drawn by `CXNN`, which leaves it in VX, and by nothing else. -/
theorem roll_cases (m : Machine D) (a : Act) :
    (m.roll? a = none ∧ (m.act a).random = m.random) ∨
      ∃ nn, m.roll? a = some (nn, m.random.peek.toUInt8 &&& nn) ∧
        (m.act a).random = m.random.advance := by
  cases a with
  | tick | hold => exact .inl ⟨rfl, rfl⟩
  | step now =>
      obtain ⟨gate, timers, hgate⟩ := m.stepAt_eq now
      have hact : m.act (.step now) = ({ m with gate, timers } : Machine D).step.2 :=
        congrArg Prod.snd hgate
      rw [roll?, hact]
      cases hi : m.instruction? with
      | none =>
          rw [step_of_none (m := { m with gate, timers }) hi]
          exact .inl ⟨rfl, rfl⟩
      | some i =>
          rw [step_of_some (m := { m with gate, timers }) hi, random_execute]
          cases i with
          | random x nn => exact .inr ⟨nn, by simp [execute, done, advance], rfl⟩
          | _ => exact .inl ⟨rfl, rfl⟩

/-- The words of a run stand in the stream one behind the other. -/
theorem eq_word_of_rolled {key : RandomKey} {n : Nat} (hrandom : m.random = { key, drawn := n })
    {j : Nat} {nn v : UInt8} (h : (m.rolled acts)[j]? = some (nn, v)) :
    v = (key.word (n + j)).toUInt8 &&& nn := by
  induction acts generalizing m n j with
  | nil => simp [rolled] at h
  | cons a acts ih =>
      -- The generator stands behind the words drawn so far, whatever was done besides.
      rw [rolled] at h
      rcases m.roll_cases a with ⟨hnone, hsame⟩ | ⟨nn', hsome, hadvance⟩
      · rw [hnone] at h
        exact ih (hsame.trans hrandom) h
      · rw [hsome] at h
        rw [hrandom] at hadvance hsome
        cases j with
        | zero =>
            obtain ⟨rfl, rfl⟩ := Prod.mk.inj (Option.some.inj h)
            rw [hrandom]
            rfl
        | succ j =>
            have hlater := ih hadvance h
            rwa [Nat.add_right_comm] at hlater

/-- Seed and keys matter only where a program asks for them. Until it does, a machine with another
seed, under other keys, ends its steps alike and agrees in everything but the generator and the held
key; and what `CXNN` leaves are the low bytes of the words of the seed's stream, masked, one after
the other. -/
theorem play_reproducible {b : Blueprint} {around : Blueprint.Surroundings} {display : D}
    (h : b.build around display = .ok m) :
    (∀ [LawfulAttended D] seed key,
      ∃ m', Blueprint.build { b with seed } { around with key } display = .ok m' ∧
        ∀ acts acts', Act.withoutHolds acts' = Act.withoutHolds acts →
          (Avoids Instruction.consults m' acts' ↔ Avoids Instruction.consults m acts) ∧
          (Avoids Instruction.consults m acts →
            m'.stepResults acts' = m.stepResults acts ∧
            m'.play acts' = { m.play acts with
              display := (m'.play acts').display
              random := (m'.play acts').random } ∧
            Attended.hold none (m'.play acts').display =
              Attended.hold none (m.play acts).display)) ∧
    ∀ seed, b.seed = some seed → ∀ acts j nn v, (m.rolled acts)[j]? = some (nn, v) →
      v = ((RandomKey.ofSeed seed).word j).toUInt8 &&& nn := by
  obtain ⟨hfits, rfl⟩ := Blueprint.build_eq_ok_iff.1 h
  constructor
  · intro _ seed key
    have hfits' : Blueprint.Fits { b with seed } (Display.size display) := { hfits with }
    refine ⟨_, Blueprint.build_eq_ok_iff.2 ⟨hfits', rfl⟩, fun acts acts' hacts => ?_⟩
    -- Without seed and keys it is the same machine.
    generalize hm : b.machine around display (Display.size display) = m
    generalize hm' : Blueprint.machine { b with seed } { around with key } display
      (Display.size display) = m'
    have hblinded : m'.blinded m.random = m.blinded m.random := by
      rw [← hm, ← hm']
      rfl
    have havoids : Avoids Instruction.consults m' acts' ↔ Avoids Instruction.consults m acts := by
      rw [← avoids_blinded m' m.random, ← avoids_blinded m m.random, hblinded, hacts]
    refine ⟨havoids, fun hm => ?_⟩
    obtain ⟨hplay, hresults⟩ := play_blinded hm m.random
    obtain ⟨hplay', hresults'⟩ := play_blinded (havoids.2 hm) m.random
    rw [hblinded, hacts] at hplay' hresults'
    have hsame : (m'.play acts').blinded m.random = (m.play acts).blinded m.random :=
      hplay'.symm.trans hplay
    refine ⟨hresults'.symm.trans hresults, ?_, congrArg Machine.display hsame⟩
    exact congrArg (fun sighted : Machine D => { sighted with
      display := (m'.play acts').display
      random := (m'.play acts').random }) hsame
  · intro seed hseed acts j nn v hrolled
    have hrandom : (b.machine around display (Display.size display)).random =
        { key := .ofSeed seed, drawn := 0 } := by
      rw [Blueprint.machine, hseed]
    have hword := eq_word_of_rolled hrandom hrolled
    rwa [Nat.zero_add] at hword

/-- Draws a glyph, then two random bytes, with a step between them that fails. -/
def dice : Blueprint where
  program := [0xA0, 0x50, 0xD0, 0x05, 0x00, 0x00, 0xC1, 0x00, 0x00, 0xEE, 0xC2, 0xFF]
  seed := some 7
  gated := false

/-- Two seeds up to the first random byte, with keys pressed at different moments; and the second
byte, which is the second of the stream although the first one was masked out. -/
theorem play_reproducible_dice :
    let frame := FrameBuffer.new ⟨8, 4⟩
    let m := dice.machine {} frame ⟨8, 4⟩
    let m' := Blueprint.machine { dice with seed := some 8 } {} frame ⟨8, 4⟩
    let acts : List Act := [.hold (some 3), .step 0, .tick, .step 1]
    let acts' : List Act := [.step 0, .hold (some 5), .tick, .hold none, .step 1]
    let longer : List Act := [.step 0, .step 1, .step 2, .step 3, .tick, .step 4, .step 5]
    dice.build {} frame = .ok m ∧ Act.withoutHolds acts' = Act.withoutHolds acts ∧
      Avoids Instruction.consults m acts ∧ m'.stepResults acts' = m.stepResults acts ∧
      (m'.play acts').pc = (m.play acts).pc ∧
      Attended.hold none (m'.play acts').display = Attended.hold none (m.play acts).display ∧
      m.rolled longer = [(0, 0), (0xFF, 233)] ∧
      233 = ((RandomKey.ofSeed 7).word 1).toUInt8 &&& 0xFF := by
  intro frame m m' acts acts' longer
  have hbuild : dice.build {} frame = .ok m := rfl
  have hevaluated : (∀ pre ∈ acts.inits, ¬ (m.play pre).comes Instruction.consults) ∧
      m.rolled longer = [(0, 0), (0xFF, 233)] := by
    decide +kernel
  obtain ⟨hinits, hrolled⟩ := hevaluated
  have havoids : Avoids Instruction.consults m acts := by
    intro pre now hpre
    exact hinits pre ((List.mem_inits _ _).2 ((List.prefix_append _ _).trans hpre))
  have hacts : Act.withoutHolds acts' = Act.withoutHolds acts := rfl
  obtain ⟨hblind, hwords⟩ := play_reproducible hbuild
  obtain ⟨m₁, hbuild', halike⟩ := hblind (some 8) (.ofSeed 0)
  obtain rfl : m' = m₁ := Except.ok.inj hbuild'
  obtain ⟨hresults, hplay, hdisplay⟩ := (halike acts acts' hacts).2 havoids
  have hpc : (m'.play acts').pc = (m.play acts).pc := by rw [hplay]
  refine ⟨hbuild, hacts, havoids, hresults, hpc, hdisplay, hrolled, ?_⟩
  apply hwords 7 rfl longer 1
  rw [hrolled]
  rfl

end Machine

end Chip8
