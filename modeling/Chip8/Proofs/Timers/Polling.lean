import Chip8.Machine.Basic
import Mathlib.Algebra.GroupWithZero.Nat
import Mathlib.Order.MinMax

/-!
Asking a gate. The ticks of a gate stand on a grid, one period apart, and the gate moves along the
grid by whole periods only, however late or unevenly it is asked. So all that it remembers is how
many ticks it has counted (`past`), and that is the number of periods up to the latest instant at
which it was asked. An instant before that finds nothing due.

A timer that is counted down in batches is counted down by the sum, since it stops at zero either
way. Hence the timers do not tell how often the gate was asked, only how late.
-/

namespace Chip8

/-! ### Counting down in batches -/

namespace Timers

theorem foldl_tickN (dues : List Nat) (t : Timers) : dues.foldl tickN t = t.tickN dues.sum := by
  induction dues generalizing t with
  | nil => exact (tickN_zero t).symm
  | cons due dues ih => rw [List.foldl_cons, ih, tickN_tickN, List.sum_cons]

/-- No timer holds more than a batch of 255 takes away. -/
theorem tickN_min (t : Timers) (n : Nat) : t.tickN (min n 255) = t.tickN n := by
  have hless (a : UInt8) : lessOrZero a (min n 255) = lessOrZero a n := by
    apply UInt8.toNat_inj.1
    have hlt := a.toNat_lt
    simp only [toNat_lessOrZero]
    omega
  simp only [tickN, hless]

end Timers

namespace TimerGate

/-- The answers of a gate that is asked at one instant after the other, and the gate after them. -/
def poll (g : TimerGate) : List Nat → Option (List Nat × TimerGate)
  | [] => some ([], g)
  | now :: polls =>
    match g.dueTicks? now with
    | none => none
    | some (due, g) => (poll g polls).map fun (dues, g) => (due :: dues, g)

/-- A gate answers the first time by itself, and the gate after it answers the others. -/
theorem poll_cons_eq_some {g gate : TimerGate} {now : Nat} {polls dues : List Nat} :
    g.poll (now :: polls) = some (dues, gate) ↔
      ∃ due g₁ rest, g.dueTicks? now = some (due, g₁) ∧ g₁.poll polls = some (rest, gate) ∧
        dues = due :: rest := by
  rw [poll]
  rcases g.dueTicks? now with _ | ⟨due, g₁⟩
  · simp
  · simp only [Option.map_eq_some_iff, Prod.exists, Prod.mk.injEq, Option.some.injEq]
    constructor
    · rintro ⟨rest, _, hrest, rfl, rfl⟩
      exact ⟨due, g₁, rest, ⟨rfl, rfl⟩, hrest, rfl⟩
    · rintro ⟨_, _, rest, ⟨rfl, rfl⟩, hrest, rfl⟩
      exact ⟨rest, gate, hrest, rfl, rfl⟩

/-- The latest of the instants; the start, if none is later. -/
def latest (start : Nat) (polls : List Nat) : Nat :=
  polls.foldl max start

/-- How many periods have passed from the start to an instant. -/
def elapsed (start period now : Nat) : Nat :=
  (now - start) / period

/-- A gate that was opened at `start` and has counted `n` ticks. -/
def past (start period n : Nat) : TimerGate where
  period
  next := start + (n + 1) * period

variable {start period : Nat}

theorem elapsed_max (start period a b : Nat) :
    elapsed start period (max a b) = max (elapsed start period a) (elapsed start period b) := by
  have hmono : Monotone (elapsed start period) := fun _ _ h =>
    Nat.div_le_div_right (Nat.sub_le_sub_right h start)
  exact hmono.map_max

/-! ### Once -/

/-- At the next tick or later all periods are counted that have passed since the last one. -/
theorem dueTicks?_past (start : Nat) (hperiod : 0 < period) (n now : Nat) :
    (past start period n).dueTicks? now =
      some (max n (elapsed start period now) - n,
        past start period (max n (elapsed start period now))) := by
  unfold dueTicks?
  show (if now < start + (n + 1) * period then _ else if period = 0 then _ else _) = _
  by_cases hearly : now < start + (n + 1) * period
  · have hle : elapsed start period now ≤ n := by
      refine Nat.le_of_lt_succ ((Nat.div_lt_iff_lt_mul hperiod).2 ?_)
      have : 0 < (n + 1) * period := Nat.mul_pos n.succ_pos hperiod
      rw [Nat.succ_eq_add_one]
      omega
    rw [if_pos hearly, max_eq_left hle, Nat.sub_self]
  · have hsince : now - (start + (n + 1) * period) = now - start - period * (n + 1) := by
      rw [Nat.mul_comm, Nat.sub_sub]
    have hlt : n + 1 ≤ elapsed start period now := by
      refine (Nat.le_div_iff_mul_le hperiod).2 ?_
      omega
    have hdue : (now - (start + (n + 1) * period)) / period + 1 = elapsed start period now - n := by
      rw [hsince, Nat.sub_mul_div]
      show elapsed start period now - (n + 1) + 1 = _
      omega
    have hnext : start + (n + 1) * period + (elapsed start period now - n) * period =
        start + (elapsed start period now + 1) * period := by
      rw [Nat.add_assoc, ← Nat.add_mul]
      congr 2
      omega
    rw [if_neg hearly, if_neg (Nat.ne_of_gt hperiod), max_eq_right (Nat.le_of_succ_le hlt)]
    show some ((now - (start + (n + 1) * period)) / period + 1, TimerGate.mk period
      (start + (n + 1) * period + ((now - (start + (n + 1) * period)) / period + 1) * period)) = _
    rw [hdue, hnext]
    rfl

/-! ### Over and over -/

/-- Asked in any order, a gate counts the periods up to the latest instant. -/
theorem poll_past (start : Nat) (hperiod : 0 < period) (last : Nat) (polls : List Nat) :
    ∃ dues, (past start period (elapsed start period last)).poll polls =
        some (dues, past start period (elapsed start period (polls.foldl max last))) ∧
      dues.length = polls.length ∧
      elapsed start period last + dues.sum = elapsed start period (polls.foldl max last) := by
  induction polls generalizing last with
  | nil => exact ⟨[], rfl, rfl, rfl⟩
  | cons now polls ih =>
      obtain ⟨dues, hpoll, hlength, hsum⟩ := ih (max last now)
      have hdue := dueTicks?_past start hperiod (elapsed start period last) now
      rw [← elapsed_max] at hdue
      have hle : elapsed start period last ≤ elapsed start period (max last now) := by
        rw [elapsed_max]
        exact le_max_left _ _
      refine ⟨(elapsed start period (max last now) - elapsed start period last) :: dues,
        ?_, ?_, ?_⟩
      · exact poll_cons_eq_some.2 ⟨_, _, dues, hdue, hpoll, rfl⟩
      · rw [List.length_cons, List.length_cons, hlength]
      · rw [List.sum_cons, List.foldl_cons, ← hsum]
        omega

/-- What a gate answers is settled when it answers. -/
theorem poll_take {g g' : TimerGate} {polls dues : List Nat} (h : g.poll polls = some (dues, g'))
    (k : Nat) : ∃ gate, g.poll (polls.take k) = some (dues.take k, gate) := by
  induction polls generalizing g dues k with
  | nil =>
      cases h
      exact ⟨_, by rw [List.take_nil]; rfl⟩
  | cons now polls ih =>
      cases k with
      | zero => exact ⟨g, rfl⟩
      | succ k =>
          obtain ⟨due, g₁, rest, hdue, hrest, rfl⟩ := poll_cons_eq_some.1 h
          obtain ⟨gate, hgate⟩ := ih hrest k
          exact ⟨gate, poll_cons_eq_some.2 ⟨due, g₁, rest.take k, hdue, hgate, rfl⟩⟩

end TimerGate

/-- A machine hands the answers of its gate on to its timers. -/
theorem Machine.foldl_tickUntil {D : Type} {m : Machine D} {g gate : TimerGate}
    {polls dues : List Nat} (hgate : m.gate = some g) (h : g.poll polls = some (dues, gate)) :
    polls.foldl (fun m now => m.tickUntil now) m =
      { m with gate := some gate, timers := dues.foldl Timers.tickN m.timers } := by
  induction polls generalizing m g dues with
  | nil =>
      cases h
      rw [← hgate]
      rfl
  | cons now polls ih =>
      obtain ⟨due, g₁, rest, hdue, hrest, rfl⟩ := TimerGate.poll_cons_eq_some.1 h
      have htick : m.tickUntil now =
          { m with gate := some g₁, timers := m.timers.tickN due } := by
        rw [tickUntil, hgate]
        dsimp only
        rw [hdue]
      rw [List.foldl_cons, List.foldl_cons, htick]
      exact ih rfl hrest

namespace TimerGate

/-- However often a gate is asked, and in whatever order, its answers add up to the periods between
the start and the latest instant; the timers that are given the answers one by one, in batches of
255 at most or as they are, go down by their sum; and of all the polls they only tell the latest. -/
theorem poll_ofRate {start hz : Nat} (hpos : 1 ≤ hz) (hle : hz ≤ 1000000000) (polls : List Nat) :
    ∃ dues gate, (ofRate start hz).poll polls = some (dues, gate) ∧
      dues.length = polls.length ∧
      (∀ k, (dues.take k).sum = (latest start (polls.take k) - start) / (1000000000 / hz)) ∧
      (∀ (t : Timers) k,
        ((dues.take k).foldl Timers.tickN t).delay.toNat = t.delay.toNat - (dues.take k).sum ∧
        ((dues.take k).foldl Timers.tickN t).sound.toNat = t.sound.toNat - (dues.take k).sum ∧
        (dues.take k).foldl (fun t due => t.tickN (min due 255)) t =
          (dues.take k).foldl Timers.tickN t) ∧
      (∀ polls' dues' gate', (ofRate start hz).poll polls' = some (dues', gate') →
        latest start polls' = latest start polls →
        ∀ t : Timers, dues'.foldl Timers.tickN t = dues.foldl Timers.tickN t) ∧
      ∀ (D : Type) (m : Machine D), m.gate = some (ofRate start hz) → ∀ k,
        ((polls.take k).foldl (fun m now => m.tickUntil now) m).timers =
          (dues.take k).foldl Timers.tickN m.timers := by
  have hperiod : 0 < 1000000000 / hz := Nat.div_pos hle hpos
  have hopened : ofRate start hz =
      past start (1000000000 / hz) (elapsed start (1000000000 / hz) start) := by
    simp [ofRate, past, elapsed, max_eq_left hpos]
  have hsum (polls dues gate) (h : (ofRate start hz).poll polls = some (dues, gate)) :
      dues.sum = elapsed start (1000000000 / hz) (latest start polls) := by
    obtain ⟨dues', hpoll, -, hsum⟩ := poll_past start hperiod start polls
    rw [← hopened, h] at hpoll
    cases hpoll
    have hzero : elapsed start (1000000000 / hz) start = 0 := by simp [elapsed]
    rw [hzero, Nat.zero_add] at hsum
    exact hsum
  obtain ⟨dues, hpoll, hlength, -⟩ := poll_past start hperiod start polls
  rw [← hopened] at hpoll
  refine ⟨dues, _, hpoll, hlength, fun k => ?_, fun t k => ?_,
    fun polls' dues' gate' h' hlatest t => ?_, fun D m hgate k => ?_⟩
  · obtain ⟨gate, hk⟩ := poll_take hpoll k
    exact hsum _ _ _ hk
  · rw [Timers.foldl_tickN]
    refine ⟨toNat_lessOrZero _ _, toNat_lessOrZero _ _, ?_⟩
    simp only [Timers.tickN_min]
    exact Timers.foldl_tickN _ t
  · rw [Timers.foldl_tickN, Timers.foldl_tickN, hsum _ _ _ h', hsum _ _ _ hpoll, hlatest]
  · obtain ⟨gate, hk⟩ := poll_take hpoll k
    rw [Machine.foldl_tickUntil hgate hk]

/-- Sixty times a second from instant 7 on, asked at the first tick, again at the same instant,
before it, and after a second. -/
theorem poll_ofRate_backwards :
    let polls := [16666673, 16666673, 8, 1000000007]
    let dues := [1, 0, 0, 59]
    1 ≤ 60 ∧ 60 ≤ 1000000000 ∧
      (∃ gate, (ofRate 7 60).poll polls = some (dues, gate)) ∧
      (latest 7 (polls.take 3) - 7) / (1000000000 / 60) = 1 ∧
      (latest 7 polls - 7) / (1000000000 / 60) = 60 ∧
      (dues.foldl Timers.tickN ⟨30, 200⟩).delay.toNat = 0 ∧
      (dues.foldl Timers.tickN ⟨30, 200⟩).sound.toNat = 140 := by
  intro polls dues
  obtain ⟨dues', gate, hpoll, -, hsum, htimers, -⟩ :=
    @poll_ofRate 7 60 (by decide) (by decide) polls
  have hanswers : (ofRate 7 60).poll polls = some (dues, past 7 16666666 60) := by decide +kernel
  obtain rfl : dues' = dues :=
    congrArg Prod.fst (Option.some.inj (hpoll.symm.trans hanswers))
  obtain ⟨hdelay, hsound, -⟩ := htimers ⟨30, 200⟩ 4
  exact ⟨by decide, by decide, ⟨gate, hpoll⟩, (hsum 3).symm, (hsum 4).symm, hdelay, hsound⟩

end TimerGate

end Chip8
