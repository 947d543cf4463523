import Chip8.Error

/-! The bounded stack of return addresses. -/

namespace Chip8

/-- The call depth of the first interpreters. -/
def defaultStackSize : Nat := 16

structure CallStack where
  /-- Return addresses, oldest first. -/
  entries : Array UInt16 := #[]
  /-- How many calls may be open at once. -/
  capacity : Nat := defaultStackSize
  deriving DecidableEq, Repr

namespace CallStack

def size (s : CallStack) : Nat :=
  s.entries.size

def isEmpty (s : CallStack) : Bool :=
  s.entries.isEmpty

/-- Return addresses, oldest first. -/
def toList (s : CallStack) : List UInt16 :=
  s.entries.toList

/-- Adds a return address; a full stack refuses it. -/
def push (s : CallStack) (addr : UInt16) : Except Error CallStack :=
  if s.capacity ≤ s.size then .error (.stackOverflow s.size)
  else .ok { s with entries := s.entries.push addr }

/-- Takes the latest return address off; an empty stack has none. -/
def pop (s : CallStack) : Except Error (UInt16 × CallStack) :=
  match s.entries.back? with
  | none => .error .stackUnderflow
  | some addr => .ok (addr, { s with entries := s.entries.pop })

theorem push_of_lt {s : CallStack} (h : s.size < s.capacity) (addr : UInt16) :
    s.push addr = .ok { s with entries := s.entries.push addr } := by
  simp [push, Nat.not_le.2 h]

theorem push_of_le {s : CallStack} (h : s.capacity ≤ s.size) (addr : UInt16) :
    s.push addr = .error (.stackOverflow s.size) := by
  simp [push, h]

/-- The latest address comes back first, and what was below it stays. -/
theorem pop_push {s t : CallStack} {addr : UInt16} (h : s.push addr = .ok t) :
    t.pop = .ok (addr, s) := by
  unfold push at h
  split at h
  · cases h
  · cases h
    simp [pop]

end CallStack

end Chip8
