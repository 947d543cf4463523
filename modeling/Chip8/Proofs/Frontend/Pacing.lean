import Chip8.Frontend.Scripted
import Chip8.Proofs.Frontend.Watched

/-!
The loop as stepping over and over. What the loop adds to a machine is a question before every
step, a tone, a picture and a log; the machine should not notice more of it than the question, in
which the user may change the held key. So beside the loop stands a user who asks himself and steps
the machine directly (`Pace`), and the loop is compared with him.

The two do not hold the same display. The loop's front end remembers tones and pictures, which are
nothing to a machine; a `FrontendView` is what is left when these are looked away from. Pictures
depend on when the loop gets to them, and how long a turn takes is left open here: the instants come
from a clock that may be anything.
-/

namespace Chip8

/-- A view of a front end in which tones and pictures are not to be seen, and asking the user,
with the waiting before it, is `ask`. -/
structure FrontendView {D E : Type} [Frontend D] [Display E] (f : D → E)
    (ask : Nat → E → Bool × E) : Prop extends DisplayHom f where
  quitRequested : ∀ now d, ask now (f d) =
    ((Frontend.quitRequested (Frontend.await now d)).1,
      f (Frontend.quitRequested (Frontend.await now d)).2)
  present : ∀ d, f (Frontend.present d).2 = f d
  setTone : ∀ on d, f (Frontend.setTone on d).2 = f d

/-! ### Stepping directly -/

/-- Someone who steps a machine himself. -/
structure Pace (E : Type) where
  /-- What asking does: the answer, and the display with whatever key is held from then on. -/
  ask : Nat → E → Bool × E
  /-- The instant of each step. -/
  clock : Nat → Nat

namespace Pace

variable {E : Type}

/-- The machine before step `k`, once the question was asked. -/
def ready (p : Pace E) (k : Nat) (m : Machine E) : Machine E :=
  { m with display := (p.ask (p.clock k) m.display).2 }

variable [Display E]

/-- The machine after `k` steps. -/
def after (p : Pace E) (m : Machine E) : Nat → Machine E
  | 0 => m
  | k + 1 => ((p.ready k (p.after m k)).stepAt (p.clock k)).2

/-- Whether question `k` is answered with the wish to stop. -/
def stops (p : Pace E) (m : Machine E) (k : Nat) : Bool :=
  (p.ask (p.clock k) (p.after m k).display).1

/-- How step `k` ends. -/
def result (p : Pace E) (m : Machine E) (k : Nat) : Except Error Unit :=
  ((p.ready k (p.after m k)).stepAt (p.clock k)).1

/-- What the first `k` steps log. -/
def log (p : Pace E) (m : Machine E) (k : Nat) : List LogLine :=
  (List.range k).flatMap fun i => (p.ready i (p.after m i)).stepLog

/-- Whether the first `k` questions are answered with the wish to go on, and the steps after them
all end well. -/
def Goes (p : Pace E) (m : Machine E) (k : Nat) : Prop :=
  ∀ i < k, p.stops m i = false ∧ p.result m i = .ok ()

theorem log_succ (p : Pace E) (m : Machine E) (k : Nat) :
    p.log m (k + 1) = p.log m k ++ (p.ready k (p.after m k)).stepLog := by
  rw [log, List.range_succ, List.flatMap_append, List.flatMap_singleton]
  rfl

/-- No step logs that the user wants to stop. -/
theorem level_ne_of_mem_log (p : Pace E) (m : Machine E) (k : Nat)
    {line : LogLine} (h : line ∈ p.log m k) : line.level ≠ .info := by
  obtain ⟨i, -, hline⟩ := List.mem_flatMap.mp h
  unfold Machine.stepLog at hline
  split at hline
  · exact absurd hline List.not_mem_nil
  · rcases List.mem_cons.mp hline with rfl | hline
    · exact LogLevel.noConfusion
    · split at hline
      · rw [List.mem_singleton.mp hline]
        exact LogLevel.noConfusion
      · exact absurd hline List.not_mem_nil

end Pace

namespace Runner

variable {D E : Type} [Frontend D] [Display E] {f : D → E} {ask : Nat → E → Bool × E}

/-! ### After the step -/

structure Closing (f : D → E) (r : Runner (Watched D)) (more : List Event)
    (r₁ : Runner (Watched D)) : Prop where
  view : r₁.machine.onto (f ∘ Watched.inner) = r.machine.onto (f ∘ Watched.inner)
  start : r₁.start = r.start
  log : r₁.log = r.log
  events : r₁.machine.display.events = r.machine.display.events ++ more

/-- The end of a turn goes well, or a call that failed ends the run. -/
inductive Closed (f : D → E) (r : Runner (Watched D)) (more : List Event) :
    Option Ending × Runner (Watched D) → Prop
  | well {r₁ : Runner (Watched D)} (h : Closing f r more r₁) : Closed f r more (none, r₁)
  | lost {r₁ : Runner (Watched D)} {event : Event} {reason : String}
      (mem : event ∈ r₁.machine.display.events) (failure : event.failure? = some reason) :
      Closed f r more (some (.lost reason), r₁)

omit [Frontend D] [Display E] in
theorem Closing.closed {r r₁ : Runner (Watched D)} {more more' : List Event}
    {outcome : Option Ending × Runner (Watched D)} (h : Closing f r more r₁)
    (h' : Closed f r₁ more' outcome) : Closed f r (more ++ more') outcome := by
  cases h' with
  | well h' =>
      refine .well ⟨h'.view.trans h.view, h'.start.trans h.start, h'.log.trans h.log, ?_⟩
      rw [h'.events, h.events, List.append_assoc]
  | lost mem failure => exact .lost mem failure

def toneEvents (r : Runner (Watched D)) : List Event :=
  if r.machine.soundActive = r.tone then [] else [.toned r.machine.soundActive (.ok ())]

def pictureEvents (shown : Nat) (r : Runner (Watched D)) : List Event :=
  if shown < r.nextFrame then [] else [.presented (.ok ())]

theorem closed_draw (hview : FrontendView f ask) (shown : Nat) (r : Runner (Watched D)) :
    Closed f r (r.pictureEvents shown) (r.draw shown) := by
  unfold draw pictureEvents
  by_cases hearly : shown < r.nextFrame
  · rw [if_pos hearly, if_pos hearly]
    exact .well ⟨rfl, rfl, rfl, (List.append_nil _).symm⟩
  · have hpresent : Frontend.present r.machine.display =
        ((Frontend.present r.machine.display.inner).1,
          r.machine.display.note (Frontend.present r.machine.display.inner).2
            (.presented (Frontend.present r.machine.display.inner).1)) := rfl
    have hsame := hview.present r.machine.display.inner
    rw [if_neg hearly, if_neg hearly, hpresent]
    rcases hcall : Frontend.present r.machine.display.inner with ⟨reason | _, d⟩
    · exact .lost (List.mem_append_right _ List.mem_cons_self) rfl
    · rw [hcall] at hsame
      refine .well ⟨?_, rfl, rfl, rfl⟩
      exact congrArg (fun e => ({ r.machine with display := e } : Machine E)) hsame

theorem closed_sound (hview : FrontendView f ask) (shown : Nat) (r : Runner (Watched D)) :
    Closed f r (r.toneEvents ++ r.pictureEvents shown) (r.sound shown) := by
  unfold sound toneEvents
  by_cases hsame : r.machine.soundActive = r.tone
  · dsimp only
    rw [if_pos hsame, if_pos hsame]
    exact closed_draw hview shown r
  · have htone : Frontend.setTone r.machine.soundActive r.machine.display =
        ((Frontend.setTone r.machine.soundActive r.machine.display.inner).1,
          r.machine.display.note (Frontend.setTone r.machine.soundActive r.machine.display.inner).2
            (.toned r.machine.soundActive
              (Frontend.setTone r.machine.soundActive r.machine.display.inner).1)) := rfl
    have hinvisible := hview.setTone r.machine.soundActive r.machine.display.inner
    dsimp only
    rw [if_neg hsame, if_neg hsame, htone]
    rcases hcall : Frontend.setTone r.machine.soundActive r.machine.display.inner with
      ⟨reason | _, d⟩
    · exact .lost (List.mem_append_right _ List.mem_cons_self) rfl
    · rw [hcall] at hinvisible
      have hclosing : Closing f r [.toned r.machine.soundActive (.ok ())]
          { r with
            machine := { r.machine with
              display := r.machine.display.note d (.toned r.machine.soundActive (.ok ())) }
            tone := r.machine.soundActive } :=
        ⟨congrArg (fun e => ({ r.machine with display := e } : Machine E)) hinvisible,
          rfl, rfl, rfl⟩
      exact hclosing.closed (closed_draw hview shown _)

omit [Frontend D] in
theorem filterMap_answer?_toneEvents (r : Runner (Watched D)) :
    r.toneEvents.filterMap Event.answer? = [] := by
  unfold toneEvents
  split_ifs <;> rfl

omit [Frontend D] in
theorem filterMap_answer?_pictureEvents (shown : Nat) (r : Runner (Watched D)) :
    (r.pictureEvents shown).filterMap Event.answer? = [] := by
  unfold pictureEvents
  split_ifs <;> rfl

/-! ### One turn -/

theorem displayHom_view (hview : FrontendView f ask) : DisplayHom (f ∘ Watched.inner) where
  readPixel w row col := hview.readPixel w.inner row col
  setPixel w row col lit := hview.setPixel w.inner row col lit
  refresh w := hview.refresh w.inner
  pollKey w := hview.pollKey w.inner

/-- Stepping at the instants at which the turns of a run step that began at `start`. -/
def pace (ask : Nat → E → Bool × E) (start : Nat) (clock : Nat → Instants) : Pace E where
  ask
  clock k := start + (clock k).stepped

/-- Where a run stands after `k` good turns. -/
structure Progress (f : D → E) (p : Pace E) (m : Machine E) (start : Nat)
    (lines : List LogLine) (k : Nat) (r : Runner (Watched D)) : Prop where
  view : r.machine.onto (f ∘ Watched.inner) = p.after m k
  start : r.start = start
  log : r.log.toList = lines ++ p.log m k
  answers : r.machine.display.events.filterMap Event.answer? = List.replicate k false
  pictures : (∃ event ∈ r.machine.display.events, event.isPicture) ↔ 0 < k
  fresh : k = 0 → r.nextFrame = 0

namespace Progress

variable {m : Machine E} {start k : Nat} {lines : List LogLine} {clock : Nat → Instants}
  {r : Runner (Watched D)}

theorem stops_eq (hview : FrontendView f ask)
    (h : Progress f (pace ask start clock) m start lines k r) :
    r.stops (clock k) = (pace ask start clock).stops m k := by
  unfold Pace.stops
  rw [← h.view, ← h.start]
  exact (congrArg Prod.fst (hview.quitRequested _ r.machine.display.inner)).symm

theorem asked_eq (hview : FrontendView f ask)
    (h : Progress f (pace ask start clock) m start lines k r) :
    (r.asked (clock k)).onto (f ∘ Watched.inner) =
      (pace ask start clock).ready k ((pace ask start clock).after m k) := by
  unfold Pace.ready
  rw [← h.view, ← h.start]
  exact congrArg (fun e => ({ r.machine with display := e } : Machine E).onto id)
    (congrArg Prod.snd (hview.quitRequested _ r.machine.display.inner)).symm

/-- The step of the turn is the step taken directly, and no call of it is noted down. -/
theorem exists_stepped (hview : FrontendView f ask)
    (h : Progress f (pace ask start clock) m start lines k r) :
    ∃ machine, (r.asked (clock k)).stepAt (r.start + (clock k).stepped) =
        ((pace ask start clock).result m k, machine) ∧
      machine.onto (f ∘ Watched.inner) = (pace ask start clock).after m (k + 1) ∧
      machine.display.events =
        r.machine.display.events ++ [.asked ((pace ask start clock).stops m k)] := by
  have hdirect : ((pace ask start clock).ready k ((pace ask start clock).after m k)).stepAt
        ((pace ask start clock).clock k) =
      Machine.Outcome.onto (f ∘ Watched.inner)
        ((r.asked (clock k)).stepAt (r.start + (clock k).stepped)) := by
    rw [← h.asked_eq hview, Machine.stepAt_onto (displayHom_view hview), h.start]
    rfl
  refine ⟨((r.asked (clock k)).stepAt (r.start + (clock k).stepped)).2, ?_, ?_, ?_⟩
  · exact Prod.ext (congrArg Prod.fst hdirect).symm rfl
  · exact (congrArg Prod.snd hdirect).symm
  · rw [Watched.events_stepAt, ← h.stops_eq hview]
    rfl

theorem turn_quit (hview : FrontendView f ask)
    (h : Progress f (pace ask start clock) m start lines k r)
    (hstop : (pace ask start clock).stops m k = true) :
    r.turn (clock k) = (some .quit, { r with
      machine := r.asked (clock k)
      log := r.log.push ⟨.info, "termination requested"⟩ }) := by
  rw [turn_eq, h.stops_eq hview, if_pos hstop]

theorem turn_halted (hview : FrontendView f ask)
    (h : Progress f (pace ask start clock) m start lines k r)
    (hgo : (pace ask start clock).stops m k = false) {e : Error}
    (hfail : (pace ask start clock).result m k = .error e) :
    ∃ machine, r.turn (clock k) = (some (.halted e), { r with
        machine
        log := (r.log ++ (r.asked (clock k)).stepLog).push (haltLine machine e) }) ∧
      machine.onto (f ∘ Watched.inner) = (pace ask start clock).after m (k + 1) ∧
      machine.display.events = r.machine.display.events ++ [.asked false] := by
  obtain ⟨machine, hstep, hmachine, hevents⟩ := h.exists_stepped hview
  refine ⟨machine, ?_, hmachine, hgo ▸ hevents⟩
  rw [turn_eq, h.stops_eq hview, hgo, hstep, hfail]
  rfl

/-- What is kept and told at the end of a turn leaves the run one turn further. -/
theorem of_closing (hview : FrontendView f ask)
    (h : Progress f (pace ask start clock) m start lines k r) {machine : Machine (Watched D)}
    {r₁ : Runner (Watched D)}
    (hmachine : machine.onto (f ∘ Watched.inner) = (pace ask start clock).after m (k + 1))
    (hevents : machine.display.events = r.machine.display.events ++ [.asked false]) {stepped}
    (hstepped : stepped = { r with machine, log := r.log ++ (r.asked (clock k)).stepLog })
    (hclosing : Closing f stepped
      (toneEvents stepped ++ pictureEvents (clock k).shown stepped) r₁) :
    Progress f (pace ask start clock) m start lines (k + 1) r₁ := by
  have hall : r₁.machine.display.events = r.machine.display.events ++ [.asked false] ++
      (toneEvents stepped ++ pictureEvents (clock k).shown stepped) := by
    rw [hclosing.events, ← hevents, hstepped]
  constructor
  · rw [hclosing.view, hstepped]
    exact hmachine
  · rw [hclosing.start, hstepped]
    exact h.start
  · have hsame : (r.asked (clock k)).stepLog =
        ((pace ask start clock).ready k ((pace ask start clock).after m k)).stepLog := by
      rw [← h.asked_eq hview]
      rfl
    rw [hclosing.log, hstepped, Array.toList_appendList, h.log, Pace.log_succ, hsame,
      List.append_assoc]
  · rw [hall, List.filterMap_append, List.filterMap_append, List.filterMap_append, h.answers,
      filterMap_answer?_toneEvents, filterMap_answer?_pictureEvents, List.append_nil,
      List.append_nil, List.replicate_succ']
    rfl
  · refine ⟨fun _ => k.succ_pos, fun _ => ?_⟩
    rw [hall]
    rcases Nat.eq_zero_or_pos k with hzero | hpos
    · -- The first turn draws, whenever it gets to it.
      have hdue : ¬ (clock k).shown < stepped.nextFrame := by
        rw [hstepped, h.fresh hzero]
        exact Nat.not_lt_zero _
      have hpicture : .presented (.ok ()) ∈ pictureEvents (clock k).shown stepped := by
        unfold pictureEvents
        rw [if_neg hdue]
        exact List.mem_cons_self
      exact ⟨_, List.mem_append_right _ (List.mem_append_right _ hpicture), rfl⟩
    · obtain ⟨event, hmem, hpicture⟩ := h.pictures.mpr hpos
      exact ⟨event, List.mem_append_left _ (List.mem_append_left _ hmem), hpicture⟩
  · intro hzero
    exact absurd hzero k.succ_ne_zero

/-- A step that ends well is followed by the next turn, unless the front end fails. -/
theorem turn_good (hview : FrontendView f ask)
    (h : Progress f (pace ask start clock) m start lines k r)
    (hgo : (pace ask start clock).stops m k = false)
    (hok : (pace ask start clock).result m k = .ok ()) :
    (∃ r₁, r.turn (clock k) = (none, r₁) ∧
      Progress f (pace ask start clock) m start lines (k + 1) r₁) ∨
    ∃ r₁ reason event, r.turn (clock k) = (some (.lost reason), r₁) ∧
      event ∈ r₁.machine.display.events ∧ event.failure? = some reason := by
  obtain ⟨machine, hstep, hmachine, hevents⟩ := h.exists_stepped hview
  rw [hgo] at hevents
  have hturn : r.turn (clock k) = sound (clock k).shown
      { r with machine, log := r.log ++ (r.asked (clock k)).stepLog } := by
    rw [turn_eq, h.stops_eq hview, hgo, hstep, hok]
    rfl
  have hclosed := closed_sound hview (clock k).shown
    { r with machine, log := r.log ++ (r.asked (clock k)).stepLog }
  rw [← hturn] at hclosed
  generalize r.turn (clock k) = outcome at hclosed ⊢
  cases hclosed with
  | @well r₁ hclosing =>
      left
      exact ⟨r₁, rfl, h.of_closing hview hmachine hevents rfl hclosing⟩
  | @lost r₁ event reason hmem hfailure =>
      right
      exact ⟨r₁, reason, event, rfl, hmem, hfailure⟩

end Progress

/-! ### The whole run -/

variable {m : Machine E} {start k : Nat} {lines : List LogLine} {clock : Nat → Instants}
  {r r₀ : Runner (Watched D)}

/-- A run gets as far as the direct stepping does, if the front end does not fail. -/
theorem run_progress (hview : FrontendView f ask)
    (h₀ : Progress f (pace ask start clock) m start lines 0 r₀) (turns : Nat)
    (hgood : ∀ event ∈ (run clock turns 0 r₀).2.machine.display.events, event.failure? = none)
    (hk : k ≤ turns) (hgoes : (pace ask start clock).Goes m k) :
    ∃ r, run clock turns 0 r₀ = run clock (turns - k) k r ∧
      Progress f (pace ask start clock) m start lines k r := by
  induction k with
  | zero => exact ⟨r₀, rfl, h₀⟩
  | succ k ih =>
      obtain ⟨r, hrun, h⟩ := ih (Nat.le_of_succ_le hk) fun i hi => hgoes i (Nat.lt_succ_of_lt hi)
      obtain ⟨hgo, hok⟩ := hgoes k k.lt_succ_self
      have hleft : turns - k = turns - (k + 1) + 1 := by omega
      rw [hleft, run] at hrun
      rcases h.turn_good hview hgo hok with ⟨r₁, hturn, h₁⟩ | ⟨r₁, reason, event, hturn, hmem, hbad⟩
      · rw [hturn] at hrun
        exact ⟨r₁, hrun, h₁⟩
      · rw [hturn] at hrun
        rw [hrun] at hgood
        exact absurd (hgood event hmem) (by rw [hbad]; exact Option.some_ne_none reason)

omit [Frontend D] in
theorem progress_watched (f : D → E) (p : Pace E) (m : Machine D) (start : Nat)
    (log : Array LogLine) :
    Progress f p (m.onto f) start log.toList 0 (watched { machine := m, start, log }) where
  view := rfl
  start := rfl
  log := (List.append_nil _).symm
  answers := rfl
  pictures :=
    ⟨fun ⟨_, hmem, _⟩ => absurd hmem List.not_mem_nil, fun h => absurd h (Nat.lt_irrefl 0)⟩
  fresh _ := rfl

/-- A run of the loop that ended with question `k + 1`, in step with `p`: which machine it leaves,
what it logged after its first lines, and what it asked of the front end. -/
structure Ended (f : D → E) (p : Pace E) (m : Machine E) (lines : List LogLine) (k : Nat)
    (ending : Ending) (last : Machine E) (more : List LogLine) (answer : Bool)
    (outcome : Option Ending × Runner D) (events : List Event) : Prop where
  ending : outcome.1 = some ending
  machine : outcome.2.machine.onto f = last
  log : outcome.2.log.toList = lines ++ p.log m k ++ more
  answers : events.filterMap Event.answer? = List.replicate k false ++ [answer]
  /-- Nothing is toned or presented after the last question. -/
  silent : events.getLast? = some (.asked answer)
  pictures : (∃ event ∈ events, event.isPicture) ↔ 0 < k

/-- A last turn that asks the front end nothing after the question. -/
theorem Progress.ended {p : Pace E} (h : Progress f p m start lines k r) {turns : Nat}
    {begun : Runner D} {ending : Ending} {r₁ : Runner (Watched D)} {more : List LogLine}
    {answer : Bool} (hrun : run clock turns 0 begun.watched = (some ending, r₁))
    (hevents : r₁.machine.display.events = r.machine.display.events ++ [.asked answer])
    (hlog : r₁.log.toList = r.log.toList ++ more) :
    Ended f p m lines k ending (r₁.machine.onto (f ∘ Watched.inner)) more answer
      (run clock turns 0 begun) (begun.events clock turns) := by
  have hall : begun.events clock turns = r.machine.display.events ++ [.asked answer] := by
    rw [events, hrun, hevents]
  have houtcome := run_watched clock turns begun
  rw [hrun] at houtcome
  rw [houtcome, hall]
  constructor
  · rfl
  · rfl
  · exact hlog.trans (congrArg (· ++ more) h.log)
  · rw [List.filterMap_append, h.answers]
    rfl
  · exact List.getLast?_concat
  · rw [← h.pictures]
    constructor
    · rintro ⟨event, hmem, hpicture⟩
      rcases List.mem_append.mp hmem with hmem | hmem
      · exact ⟨event, hmem, hpicture⟩
      · rw [List.mem_singleton.mp hmem] at hpicture
        exact absurd hpicture Bool.false_ne_true
    · rintro ⟨event, hmem, hpicture⟩
      exact ⟨event, List.mem_append_left _ hmem, hpicture⟩

/-- The loop is stepping over and over. On a front end that does not fail, the first question that
is answered with the wish to stop, or the first step that fails, ends the run, and until then there
was one step for each question, and the steps are those of somebody who asks and steps himself. -/
theorem run_eq_pace (hview : FrontendView f ask) (m : Machine D) (start : Nat)
    (log : Array LogLine) (clock : Nat → Instants) (turns : Nat)
    (hgood : ∀ event ∈ events clock turns { machine := m, start, log },
      event.failure? = none) :
    let p := pace ask start clock
    let outcome := run clock turns 0 { machine := m, start, log }
    let calls := events clock turns { machine := m, start, log }
    (∀ k < turns, p.Goes (m.onto f) k → p.stops (m.onto f) k = true →
      Ended f p (m.onto f) log.toList k .quit (p.ready k (p.after (m.onto f) k))
        [⟨.info, "termination requested"⟩] true outcome calls) ∧
    (∀ k < turns, p.Goes (m.onto f) k → p.stops (m.onto f) k = false →
      ∀ e, p.result (m.onto f) k = .error e →
      Ended f p (m.onto f) log.toList k (.halted e) (p.after (m.onto f) (k + 1))
        ((p.ready k (p.after (m.onto f) k)).stepLog ++
          [⟨.error, "halted near 0x" ++ Text.paddedHex 3 (p.after (m.onto f) (k + 1)).pc.toNat
            ++ ": " ++ e.message⟩]) false outcome calls) ∧
    ∀ k, ⟨.info, "termination requested"⟩ ∉ p.log (m.onto f) k := by
  intro p outcome calls
  have h₀ := progress_watched f p m start log
  refine ⟨fun k hk hgoes hstop => ?_, fun k hk hgoes hgo e hfail => ?_, fun k hmem => ?_⟩
  · obtain ⟨r, hrun, h⟩ := run_progress hview h₀ turns hgood (Nat.le_of_lt hk) hgoes
    obtain ⟨n, hn⟩ : ∃ n, turns - k = n + 1 := ⟨turns - k - 1, by omega⟩
    rw [hn, run, h.turn_quit hview hstop] at hrun
    rw [← h.asked_eq hview]
    refine h.ended hrun ?_ Array.toList_push
    rw [← hstop, ← h.stops_eq hview]
    rfl
  · obtain ⟨r, hrun, h⟩ := run_progress hview h₀ turns hgood (Nat.le_of_lt hk) hgoes
    obtain ⟨n, hn⟩ : ∃ n, turns - k = n + 1 := ⟨turns - k - 1, by omega⟩
    obtain ⟨machine, hturn, hmachine, hevents⟩ := h.turn_halted hview hgo hfail
    rw [hn, run, hturn] at hrun
    rw [← hmachine, ← h.asked_eq hview]
    refine h.ended hrun hevents ?_
    rw [Array.toList_push, Array.toList_appendList, List.append_assoc]
    rfl
  · exact p.level_ne_of_mem_log (m.onto f) k hmem rfl

end Runner

namespace Scripted

/-- A script without the record of what was sounded and drawn. -/
def unrecorded (s : Scripted) : Scripted :=
  { s with tones := #[], presents := 0 }

theorem unrecorded_pressKey (s : Scripted) (k : Nat) :
    s.unrecorded.pressKey k = (s.pressKey k).unrecorded := by
  have hkeys : s.unrecorded.keys[k]? = s.keys[k]? := rfl
  rcases hcase : s.keys[k]? with _ | _ | key <;> simp only [pressKey, hkeys, hcase] <;> rfl

theorem frontendView_unrecorded : FrontendView unrecorded fun _ s => s.quitRequested where
  readPixel _ _ _ := rfl
  setPixel _ _ _ _ := rfl
  refresh _ := rfl
  pollKey _ := rfl
  quitRequested _ s := by
    show s.unrecorded.quitRequested = (s.quitRequested.1, s.quitRequested.2.unrecorded)
    unfold quitRequested
    show (if s.checks < s.patience then _ else _) = _
    by_cases hgo : s.checks < s.patience
    · rw [if_pos hgo, if_pos hgo]
      exact congrArg (Prod.mk false)
        (unrecorded_pressKey { s with checks := s.checks + 1 } s.checks)
    · rw [if_neg hgo, if_neg hgo]
      rfl
  present _ := rfl
  setTone _ _ := rfl

end Scripted

instance decidableEqResult : DecidableEq (Except Error Unit)
  | .ok (), .ok () => .isTrue rfl
  | .ok (), .error _ | .error _, .ok () => .isFalse nofun
  | .error e, .error e' =>
    if h : e = e' then .isTrue (congrArg _ h) else .isFalse fun he => h (Except.error.inj he)

/-- Waits for a key, then returns from no subroutine. -/
def returning (patience : Nat) : Machine Scripted :=
  let frame := FrameBuffer.new ⟨2, 1⟩
  let b : Blueprint := { program := [0xF0, 0x0A, 0x00, 0xEE], gated := false }
  b.machine {} { bench := .ofFrame frame, patience, keys := #[none, some 7, none] } ⟨2, 1⟩

/-- A user who gives up after two steps does not see the machine halt, a more patient one does. -/
theorem Runner.run_eq_pace_returning :
    let clock : Nat → Instants := fun k => ⟨1000000 * k, 1000000 * k + 500⟩
    let events := fun patience => Runner.events clock 9 { machine := returning patience }
    (run clock 9 0 { machine := returning 2 }).1 = some .quit ∧
      (events 2).filterMap Event.answer? = [false, false, true] ∧
      (run clock 9 0 { machine := returning 5 }).1 = some (.halted .stackUnderflow) ∧
      (events 5).filterMap Event.answer? = [false, false, false] := by
  intro clock events
  have hview := Scripted.frontendView_unrecorded
  have hrun : ∀ patience ∈ [2, 5],
      let m := (returning patience).onto Scripted.unrecorded
      let p := pace (fun _ s => s.quitRequested) 0 clock
      (∀ event ∈ events patience, event.failure? = none) ∧
        (∀ i < 2, p.stops m i = false ∧ p.result m i = .ok ()) ∧
        p.stops m 2 = (patience == 2) ∧ p.result m 2 = .error .stackUnderflow := by
    decide +kernel
  obtain ⟨hgood₂, hgoes₂, hstop, -⟩ := hrun 2 (by decide)
  obtain ⟨hgood₅, hgoes₅, hgo, hfail⟩ := hrun 5 (by decide)
  have hquit := (run_eq_pace hview (returning 2) 0 #[] clock 9 hgood₂).1 2 (by decide) hgoes₂ hstop
  have hhalt := (run_eq_pace hview (returning 5) 0 #[] clock 9 hgood₅).2.1 2 (by decide) hgoes₅ hgo
    .stackUnderflow hfail
  exact ⟨hquit.ending, hquit.answers, hhalt.ending, hhalt.answers⟩

end Chip8
