import Chip8.Proofs.Terminal.Bell
import Mathlib.Data.List.Destutter
import Mathlib.Algebra.Group.Nat.Even

/-!
When the tone is turned on and off. The loop keeps the tone that it asked for last and compares it
with the machine after every step, so what it asks for is the list of the changes of what the
machine says, and nothing else. A program may set the sound timer at any moment and however often;
a change that is gone before the next step is over is none.

On a terminal a tone is one ring of the bell, so the bell is rung as often as the machine goes from
silence to sound.
-/

namespace Chip8

/-! ### A signal and its changes -/

namespace Signal

/-- The values that a signal changes to, if it is `before` to begin with. -/
def changes (before : Bool) : List Bool → List Bool
  | [] => []
  | b :: samples => if b = before then changes before samples else b :: changes b samples

/-- How often a signal goes from off to on. -/
def rises (before : Bool) (samples : List Bool) : Nat :=
  (List.zip (before :: samples) samples).count (false, true)

theorem cons_changes (before : Bool) (samples : List Bool) :
    before :: changes before samples = samples.destutter' (· ≠ ·) before := by
  induction samples generalizing before with
  | nil => rfl
  | cons b samples ih =>
      rw [changes, List.destutter'_cons]
      by_cases hsame : b = before
      · rw [if_pos hsame, if_neg (not_not.2 hsame.symm), ih]
      · rw [if_neg hsame, if_pos (Ne.symm hsame), ih]

/-- The last change leads to the last value. -/
theorem getLast?_changes (before : Bool) (samples : List Bool) :
    (before :: changes before samples).getLast? = (before :: samples).getLast? := by
  induction samples generalizing before with
  | nil => rfl
  | cons b samples ih =>
      rw [changes, List.getLast?_cons_cons]
      split_ifs with hsame
      · rw [ih, hsame]
      · rw [List.getLast?_cons_cons, ih]

/-- Every second change is one to on. -/
theorem getElem?_changes (before : Bool) (samples : List Bool) {i : Nat}
    (hi : i < (changes before samples).length) :
    (changes before samples)[i]? = some (before ^^ decide (Even i)) := by
  have hchain : (before :: changes before samples).IsChain (· ≠ ·) := by
    rw [cons_changes]
    exact List.isChain_destutter' _ _ _
  -- Neighbours differ, and of two values there is only one other.
  generalize changes before samples = tones at hi hchain
  induction tones generalizing before i with
  | nil => simp at hi
  | cons b tones ih =>
      obtain ⟨hne, hrest⟩ := List.isChain_cons_cons.1 hchain
      have hb : b = !before := by cases b <;> cases before <;> simp_all
      cases i with
      | zero => simp [hb]
      | succ i =>
          rw [List.getElem?_cons_succ, ih b (by simpa using hi) hrest, hb]
          by_cases heven : Even i <;> simp [heven, Nat.even_add_one]

/-- The changes to on are the rises. -/
theorem count_changes (before : Bool) (samples : List Bool) :
    (changes before samples).count true = rises before samples := by
  induction samples generalizing before with
  | nil => rfl
  | cons b samples ih =>
      have hrises : rises before (b :: samples) =
          rises b samples + if (before, b) = (false, true) then 1 else 0 := by
        simp [rises, List.count_cons]
      rw [changes, hrises]
      split_ifs with hsame hrise hrise
      · cases b <;> simp_all
      · rw [ih, hsame, Nat.add_zero]
      · obtain ⟨rfl, rfl⟩ := Prod.mk.inj hrise
        rw [List.count_cons_self, ih]
      · have hb : b = false := by cases b <;> cases before <;> simp_all
        rw [hb, List.count_cons_of_ne (by decide), ih, Nat.add_zero]

end Signal

/-! ### The tones of a run -/

namespace Event

/-- What the tone was set to, and the answer. -/
def tone? : Event → Option (Bool × Except String Unit)
  | toned on answer => some (on, answer)
  | _ => none

/-- What the tone was set to, one after the other. -/
def tones (events : List Event) : List Bool :=
  (events.filterMap tone?).map Prod.fst

theorem tones_append (events more : List Event) :
    tones (events ++ more) = tones events ++ tones more := by
  simp [tones]

theorem tone?_eq_some {event : Event} {on : Bool} {answer : Except String Unit} :
    event.tone? = some (on, answer) ↔ event = .toned on answer := by
  cases event <;> simp [tone?]

/-- Where no call for a tone failed, the bell rings for those that turn it on. -/
theorem countP_rings {calls : List Event} (h : ∀ on reason, .toned on (.error reason) ∉ calls) :
    calls.countP rings = (tones calls).count true := by
  induction calls with
  | nil => rfl
  | cons call calls ih =>
      have hrest := ih fun on reason hmem => h on reason (List.mem_cons_of_mem _ hmem)
      rw [List.countP_cons, hrest]
      cases call with
      | toned on answer =>
          cases answer with
          | error reason => exact absurd List.mem_cons_self (h on reason)
          | ok _ => cases on <;> simp [tones, tone?, rings]
      | asked | presented | terminated => rfl

end Event

namespace Runner

variable {D : Type}

theorem tones_edge (before on : Bool) :
    Event.tones (edge before on) = if on = before then [] else [on] := by
  unfold edge
  split_ifs <;> rfl

theorem tones_of_shown {pictures : List Event}
    (h : ∀ event ∈ pictures, event = .presented (.ok ())) : Event.tones pictures = [] := by
  have hnone : pictures.filterMap Event.tone? = [] := by
    refine List.filterMap_eq_nil_iff.2 fun event hevent => ?_
    rw [h event hevent]
    rfl
  rw [Event.tones, hnone]
  rfl

variable [Frontend D]

section

variable {r : Runner D} {events : List Event} {machines : List (Machine D)}
  {outcome : Option Ending × Runner D}

/-- Whether a tone should be playing, asked after every step that ended well. -/
def samples (clock : Nat → Instants) (turns : Nat) (r : Runner D) : List Bool :=
  (stepped clock turns r).map Machine.soundActive

theorem Sounded.tones_eq {before : Bool} {m : Machine D} (h : Sounded before m events outcome) :
    Event.tones events = if m.soundActive = before then [] else [m.soundActive] := by
  cases h with
  | untoned hedge =>
      rw [if_neg hedge]
      rfl
  | unseen =>
      rw [Event.tones_append, tones_edge]
      exact List.append_nil _
  | going shown =>
      rw [Event.tones_append, tones_edge, tones_of_shown shown, List.append_nil]

/-- What is asked for are the changes of what the machine says. -/
theorem Ran.tones_eq (h : Ran r events machines outcome) :
    Event.tones events = Signal.changes r.tone (machines.map Machine.soundActive) := by
  induction h with
  | left r => rfl
  | ended last =>
      cases last with
      | quit | halted => rfl
      | stepped rest => exact rest.tones_eq
  | @going r r₁ _ more _ machines outcome first rest ih =>
      cases first with
      | @stepped m events _ sounded =>
          have hturn : Event.tones (.asked false :: events) = _ := sounded.tones_eq
          -- The next turn compares with the tone that this one left.
          have htone : r₁.tone = m.soundActive := by
            cases sounded with
            | going shown tone => exact tone
          rw [Event.tones_append, hturn, ih, htone]
          show _ = Signal.changes r.tone (m.soundActive :: machines.map Machine.soundActive)
          rw [Signal.changes]
          split_ifs with hsame
          · rw [hsame]
            rfl
          · rfl

/-! ### A tone that cannot be changed -/

/-- A run that ended with a call for a tone, which failed. -/
structure Untoned (events : List Event) (machines : List (Machine D))
    (outcome : Option Ending × Runner D) (on : Bool) (reason : String) : Prop where
  ending : outcome.1 = some (.lost reason)
  /-- Nothing is asked of the front end after the call. -/
  last : events.getLast? = some (.toned on (.error reason))
  /-- After every question there was a step that ended well, and there was none besides. -/
  answers : events.filterMap Event.answer? = List.replicate machines.length false
  /-- The machine is as the last of these steps left it, on the display that the call left. -/
  machine : ∃ m, machines.getLast? = some m ∧ m.soundActive = on ∧
    (Frontend.setTone on m.display).1 = .error reason ∧
    outcome.2.machine = { m with display := (Frontend.setTone on m.display).2 }

theorem not_mem_edge (before b on : Bool) (reason : String) :
    .toned on (.error reason) ∉ edge before b := by
  unfold edge
  split_ifs <;> simp

/-- A turn that is not the last one had its tone, and one question. -/
theorem Sounded.of_going {before : Bool} {m : Machine D} {r₁ : Runner D}
    (h : Sounded before m events (none, r₁)) :
    (∀ on reason, .toned on (.error reason) ∉ events) ∧ events.filterMap Event.answer? = [] := by
  cases h with
  | @going pictures _ shown =>
      have hpictures : ∀ event ∈ pictures, event.answer? = none := by
        intro event hevent
        rw [shown event hevent]
        rfl
      constructor
      · intro on reason hmem
        rcases List.mem_append.1 hmem with hmem | hmem
        · exact not_mem_edge _ _ _ _ hmem
        · cases shown _ hmem
      · rw [List.filterMap_append, List.filterMap_eq_nil_iff.2 hpictures, List.append_nil]
        unfold edge
        split_ifs <;> rfl

/-- A call for a tone that failed was the last call. -/
theorem Ran.untoned (h : Ran r events machines outcome) {on : Bool} {reason : String}
    (hmem : .toned on (.error reason) ∈ events) :
    Untoned events machines outcome on reason ∧
      ∃ before, events = before ++ [.toned on (.error reason)] ∧
        ∀ on reason, .toned on (.error reason) ∉ before := by
  induction h with
  | left r => cases hmem
  | ended last =>
      -- Of the turns that can be the last one, one ends in such a call.
      cases last with
      | quit | halted => simp at hmem
      | @stepped m _ _ rest =>
          have hcall := (List.mem_cons.1 hmem).resolve_left nofun
          cases rest with
          | untoned _ failed machine =>
              obtain ⟨rfl, hanswer⟩ := Event.toned.inj (List.mem_singleton.1 hcall)
              cases hanswer
              exact ⟨⟨rfl, rfl, rfl, m, rfl, rfl, failed, machine⟩, [.asked false], rfl, by simp⟩
          | unseen =>
              rcases List.mem_append.1 hcall with hcall | hcall
              · exact absurd hcall (not_mem_edge _ _ _ _)
              · simp at hcall
  | @going r r₁ _ more _ machines outcome first rest ih =>
      cases first with
      | @stepped m events _ sounded =>
          obtain ⟨hnone, hanswers⟩ := sounded.of_going
          have hfirst : ∀ on reason, .toned on (.error reason) ∉ .asked false :: events :=
            fun on reason => by simp [hnone on reason]
          obtain ⟨huntoned, before, rfl, hbefore⟩ :=
            ih ((List.mem_append.1 hmem).resolve_left (hfirst on reason))
          obtain ⟨hending, hlast, hreplicate, m', hm', hmachine⟩ := huntoned
          refine ⟨⟨hending, ?_, ?_, m', ?_, hmachine⟩, .asked false :: events ++ before, ?_, ?_⟩
          · rw [← List.append_assoc]
            exact List.getLast?_concat
          · have hquestion : (.asked false :: events).filterMap Event.answer? = [false] :=
              congrArg (List.cons false) hanswers
            rw [List.filterMap_append, hreplicate, hquestion]
            rfl
          · have hne : machines ≠ [] := by
              intro hnil
              rw [hnil] at hm'
              cases hm'
            exact (List.getLast?_append_of_ne_nil _ hne).trans hm'
          · rw [List.append_assoc]
          · intro on reason
            simp [hbefore, hnone]

/-- There is no call for a tone after one that failed. -/
theorem Ran.untoned_at (h : Ran r events machines outcome) {n : Nat} {on : Bool} {reason : String}
    (hn : (events.filterMap Event.tone?)[n]? = some (on, .error reason)) :
    (events.filterMap Event.tone?).length = n + 1 ∧
      Untoned events machines outcome on reason := by
  have hcall {calls : List Event} (hn : (calls.filterMap Event.tone?)[n]? =
      some (on, .error reason)) : .toned on (.error reason) ∈ calls := by
    obtain ⟨event, hevent, htone⟩ := List.mem_filterMap.1 (List.mem_of_getElem? hn)
    rwa [← Event.tone?_eq_some.1 htone]
  obtain ⟨huntoned, before, rfl, hbefore⟩ := h.untoned (hcall hn)
  refine ⟨?_, huntoned⟩
  have hsplit : (before ++ [Event.toned on (.error reason)]).filterMap Event.tone? =
      before.filterMap Event.tone? ++ [(on, .error reason)] := by
    rw [List.filterMap_append]
    rfl
  rw [hsplit] at hn ⊢
  rcases Nat.lt_or_ge n (before.filterMap Event.tone?).length with hearly | hlate
  · -- None of the calls before it failed.
    rw [List.getElem?_append_left hearly] at hn
    exact absurd (hcall hn) (hbefore on reason)
  · obtain ⟨hlt, -⟩ := List.getElem?_eq_some_iff.1 hn
    simp only [List.length_append, List.length_singleton] at hlt ⊢
    omega

end

/-- The tones are the edges of what the machine says after its steps: they alternate, beginning
with on, and the last of them is what the machine says in the end. A call that fails is the last
thing that happens in a run. On a terminal the bell rings once for every edge to on. -/
theorem tones_at_edges (clock : Nat → Instants) (turns start : Nat) (log : Array LogLine) :
    (∀ {D : Type} [Frontend D] (m : Machine D),
      let begun : Runner D := { machine := m, start, log }
      let calls := events clock turns begun
      let sampled := samples clock turns begun
      Event.tones calls = Signal.changes false sampled ∧
      (∀ i < (Event.tones calls).length, (Event.tones calls)[i]? = some (decide (Even i))) ∧
      (Event.tones calls).getLast?.getD false = sampled.getLast?.getD false ∧
      ∀ n on reason, (calls.filterMap Event.tone?)[n]? = some (on, .error reason) →
        (calls.filterMap Event.tone?).length = n + 1 ∧
          Untoned calls (stepped clock turns begun) (run clock turns 0 begun) on reason) ∧
    ∀ m : Machine Terminal,
      let begun : Runner Terminal := { machine := m, start, log }
      (∀ on reason, .toned on (.error reason) ∉ events clock turns begun) →
        (run clock turns 0 begun).2.machine.display.bells =
          m.display.bells + Signal.rises false (samples clock turns begun) := by
  constructor
  · intro D _ m begun calls sampled
    have hran := ran clock turns begun
    have htones : Event.tones calls = Signal.changes false sampled := hran.tones_eq
    refine ⟨htones, fun i hi => ?_, ?_, fun n on reason hn => ?_⟩
    · rw [htones] at hi ⊢
      rw [Signal.getElem?_changes false sampled hi, Bool.false_xor]
    · have hlast := Signal.getLast?_changes false sampled
      rw [← htones, List.getLast?_cons, List.getLast?_cons] at hlast
      exact Option.some.inj hlast
    · exact hran.untoned_at hn
  · intro m begun hgood
    rw [Terminal.bells_run, Event.countP_rings hgood, (ran clock turns begun).tones_eq,
      Signal.count_changes]
    rfl

/-- Sets the sound timer over and over, each time to a tick. -/
def beeps : Blueprint :=
  { program := [0x60, 0x01, 0xF0, 0x18, 0x12, 0x02], timers := ⟨0, 0⟩ }

/-- Six turns on a terminal, where the timer runs out at every second one: three beeps, or two of
them if the terminal is gone by then. -/
theorem tones_at_edges_beeps :
    let clock : Nat → Instants := fun k => ⟨20000000 * k, 20000000 * k⟩
    let console := Terminal.small.console
    let m := beeps.machine {} Terminal.small ⟨4, 3⟩
    let cut := beeps.machine {}
      { Terminal.small with console := { console with fault := some (90000000, "gone") } } ⟨4, 3⟩
    let begun : Runner Terminal := { machine := m }
    let doomed : Runner Terminal := { machine := cut }
    (∀ on reason, .toned on (.error reason) ∉ events clock 6 begun) ∧
      samples clock 6 begun = [false, true, false, true, false, true] ∧
      (run clock 6 0 begun).2.machine.display.bells = 3 ∧
      ((events clock 6 doomed).filterMap Event.tone?)[4]? = some (true, .error "gone") ∧
      ((events clock 6 doomed).filterMap Event.tone?).length = 5 ∧
      Untoned (events clock 6 doomed) (stepped clock 6 doomed) (run clock 6 0 doomed) true
        "gone" := by
  intro clock console m cut begun doomed
  have hgood : (∀ call ∈ events clock 6 begun, call.failure? = none) ∧
      samples clock 6 begun = [false, true, false, true, false, true] ∧
      Terminal.small.bells = 0 := by
    decide +kernel
  have hcut : ((events clock 6 doomed).filterMap Event.tone?)[4]? = some (true, .error "gone") := by
    decide +kernel
  obtain ⟨hcalls, hsamples, hsmall⟩ := hgood
  obtain ⟨hany, hterminal⟩ := tones_at_edges clock 6 0 #[]
  have huntoned : ∀ on reason, .toned on (.error reason) ∉ events clock 6 begun :=
    fun on reason hmem => nomatch hcalls _ hmem
  have hbells := hterminal m huntoned
  obtain ⟨-, -, -, hfailed⟩ := hany cut
  refine ⟨huntoned, hsamples, hbells.trans ?_, hcut, hfailed 4 true "gone" hcut⟩
  rw [hsamples]
  exact congrArg (· + 3) hsmall

end Runner

end Chip8
