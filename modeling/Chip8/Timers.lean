/-! The delay timer and the sound timer, which count down sixty times a second. -/

namespace Chip8

structure Timers where
  delay : UInt8 := 0
  sound : UInt8 := 0
  deriving DecidableEq, Repr, Inhabited

/-- `a` less `n`, or zero where that would be negative. -/
def lessOrZero (a : UInt8) (n : Nat) : UInt8 :=
  UInt8.ofNat (a.toNat - n)

@[simp] theorem toNat_lessOrZero (a : UInt8) (n : Nat) :
    (lessOrZero a n).toNat = a.toNat - n := by
  have h : a.toNat - n < 256 := Nat.lt_of_le_of_lt (Nat.sub_le _ _) a.toNat_lt
  simp [lessOrZero, Nat.mod_eq_of_lt h]

@[simp] theorem lessOrZero_zero (a : UInt8) : lessOrZero a 0 = a := by
  apply UInt8.toNat_inj.1
  simp

/-- Counting down twice is counting down by the sum. -/
theorem lessOrZero_lessOrZero (a : UInt8) (m n : Nat) :
    lessOrZero (lessOrZero a m) n = lessOrZero a (m + n) := by
  apply UInt8.toNat_inj.1
  simp only [toNat_lessOrZero]
  omega

namespace Timers

/-- Counts both timers down by `n`; they stop at zero. -/
def tickN (t : Timers) (n : Nat) : Timers where
  delay := lessOrZero t.delay n
  sound := lessOrZero t.sound n

/-- One sixtieth of a second. -/
def tick (t : Timers) : Timers :=
  t.tickN 1

/-- The tone sounds as long as the sound timer runs. -/
def soundActive (t : Timers) : Bool :=
  0 < t.sound.toNat

@[simp] theorem tickN_zero (t : Timers) : t.tickN 0 = t := by
  simp [tickN]

theorem tickN_tickN (t : Timers) (m n : Nat) : (t.tickN m).tickN n = t.tickN (m + n) := by
  simp [tickN, lessOrZero_lessOrZero]

theorem tickN_succ (t : Timers) (n : Nat) : t.tickN (n + 1) = (t.tickN n).tick := by
  rw [tick, tickN_tickN]

end Timers

end Chip8
