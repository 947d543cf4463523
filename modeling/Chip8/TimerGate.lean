/-!
Pacing the timers by the clock. A gate remembers when the next tick is due; asked at an
instant, it counts the ticks that came due since it was last asked. Instants and periods are
whole nanoseconds.
-/

namespace Chip8

/-- Rate at which the timers count down. -/
def timerHz : Nat := 60

structure TimerGate where
  period : Nat
  /-- The instant of the next tick. -/
  next : Nat
  deriving DecidableEq, Repr

namespace TimerGate

/-- A gate opened at `start` for `hz` ticks a second; no rate counts as one. A rate above 10^9
has no period in whole nanoseconds: its period is zero. -/
def ofRate (start hz : Nat) : TimerGate :=
  let period := 1000000000 / max hz 1
  { period, next := start + period }

def opened (start : Nat) : TimerGate :=
  ofRate start timerHz

/-- The number of ticks due at `now`, and the gate past them. With period zero every later
tick is due as well, and there is no such number. -/
def dueTicks? (g : TimerGate) (now : Nat) : Option (Nat × TimerGate) :=
  if now < g.next then some (0, g)
  else if g.period = 0 then none
  else
    let due := (now - g.next) / g.period + 1
    some (due, { g with next := g.next + due * g.period })

end TimerGate

end Chip8
