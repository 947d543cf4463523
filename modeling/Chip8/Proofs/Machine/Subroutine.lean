import Chip8.Proofs.Machine.Effect
import Chip8.Proofs.Machine.Run
import Mathlib.Data.List.Infix

/-!
Subroutines. A call puts the address behind it on the stack, and until that address is taken off
again nothing touches it or what lies below. So the stack tells which calls are open, and the
return that closes a call finds the stack as the call found it, whatever ran in between.

Only two instructions move the stack, and each by one entry. That is said once, in `stack_step`;
the rest is about lists.
-/

namespace Chip8.Machine

variable {D : Type} {m : Machine D}

/-! ### One step -/

/-- What a step can do to the call stack. -/
inductive StackMove (m : Machine D) (outcome : Outcome D) : Prop
  | stays (same : outcome.2.stack = m.stack)
  | pushes (nnn : UInt16) (instruction : m.instruction? = some (.call nnn))
      (pushed : outcome.2.stack.toList = m.stack.toList ++ [address (m.pc + 2)])
  | pops (addr : UInt16) (instruction : m.instruction? = some .ret) (ok : outcome.1 = .ok ())
      (popped : m.stack.toList = outcome.2.stack.toList ++ [addr])
      (target : outcome.2.pc = addr)

section Step

variable [Display D]

theorem stack_step (m : Machine D) : StackMove m m.step := by
  cases hi : m.instruction? with
  | none =>
      rw [step_of_none hi]
      exact .stays rfl
  | some i =>
      rw [step_of_some hi]
      cases i with
      | call nnn =>
          show StackMove m (m.advance.call nnn)
          rw [call_eq]
          split_ifs
          · exact .pushes nnn hi (Array.toList_push ..)
          · exact .stays rfl
      | ret =>
          show StackMove m m.advance.ret
          rw [ret_eq]
          have hentries : m.advance.stack.entries = m.stack.entries := rfl
          cases hback : m.stack.entries.back? with
          | none =>
              rw [hentries, hback]
              exact .stays rfl
          | some addr =>
              obtain ⟨rest, hrest⟩ := Array.back?_eq_some_iff.1 hback
              rw [hentries, hback]
              refine .pops addr hi rfl ?_ rfl
              show m.stack.entries.toList = m.stack.entries.pop.toList ++ [addr]
              rw [hrest, Array.pop_push, Array.toList_push]
      | _ =>
          refine .stays ?_
          rw [stack_execute]
          rfl

/-- The gate looks at the timers only. -/
theorem stack_stepAt (m : Machine D) (now : Nat) : StackMove m (m.stepAt now) := by
  obtain ⟨gate, timers, hgate⟩ := m.stepAt_eq now
  rw [hgate]
  cases stack_step { m with gate, timers } with
  | stays same => exact .stays same
  | pushes nnn instruction pushed => exact .pushes nnn instruction pushed
  | pops addr instruction ok popped target => exact .pops addr instruction ok popped target

end Step

/-! ### An open call -/

/-- A call that found `below` on the stack and goes on at `back` when it returns is still open: the
return address lies where it was put, with `below` under it. -/
def OpenCall (below : List UInt16) (back : UInt16) (m : Machine D) : Prop :=
  below ++ [back] <+: m.stack.toList

/-- What closes a call: a return that ends well, goes on at `back`, and leaves the stack as the
call found it. -/
structure Closes [Attended D] (below : List UInt16) (back : UInt16) (m : Machine D) (a : Act) :
    Prop where
  is_step : ∃ now, a = .step now
  is_ret : m.instruction? = some .ret
  ok : (m.answer a).1 = .ok ()
  stack_eq : (m.act a).stack.toList = below
  pc_eq : (m.act a).pc = back

variable {below : List UInt16} {back : UInt16}

theorem OpenCall.length_lt (h : OpenCall below back m) : below.length < m.stack.size := by
  have hle := h.length_le
  rw [List.length_append] at hle
  exact hle

variable [Attended D]

/-- Only the return that closes the call takes its return address off. -/
theorem OpenCall.act (h : OpenCall below back m) (a : Act) :
    OpenCall below back (m.act a) ∨ Closes below back m a := by
  cases a with
  | tick => exact .inl h
  | hold key => exact .inl h
  | step now =>
      cases stack_stepAt m now with
      | stays same =>
          refine .inl ?_
          show _ <+: (m.stepAt now).2.stack.toList
          rw [same]
          exact h
      | pushes nnn instruction pushed =>
          refine .inl ?_
          show _ <+: (m.stepAt now).2.stack.toList
          rw [pushed]
          exact h.trans (List.prefix_append _ _)
      | pops addr instruction ok popped target =>
          obtain ⟨above, habove⟩ := h
          rw [popped] at habove
          rcases List.eq_nil_or_concat above with rfl | ⟨rest, x, rfl⟩
          · -- The return address is the last entry, so this return is the one.
            rw [List.append_nil] at habove
            obtain ⟨hstack, hlast⟩ := List.append_inj' habove rfl
            exact .inr ⟨⟨now, rfl⟩, instruction, ok, hstack.symm,
              target.trans (List.singleton_inj.1 hlast).symm⟩
          · -- Something lies above it, and that is what this return takes off.
            rw [List.concat_eq_append, ← List.append_assoc] at habove
            exact .inl ⟨rest, (List.append_inj' habove rfl).1⟩

/-- The call stays open as long as the stack does not come back to the size it had. -/
theorem OpenCall.play (h : OpenCall below back m) {acts : List Act}
    (away : ∀ pre, pre <+: acts → (m.play pre).stack.size ≠ below.length) :
    OpenCall below back (m.play acts) := by
  induction acts generalizing m with
  | nil => exact h
  | cons a acts ih =>
      rcases h.act a with hopen | hcloses
      · refine ih hopen fun pre hpre => ?_
        exact away (a :: pre) (List.cons_prefix_cons.2 ⟨rfl, hpre⟩)
      · have hsize : (m.act a).stack.size = below.length :=
          congrArg List.length hcloses.stack_eq
        exact absurd hsize (away [a] (List.cons_prefix_cons.2 ⟨rfl, List.nil_prefix⟩))

/-- A call that is accepted is open. -/
theorem openCall_of_call {nnn : UInt16} (h : m.instruction? = some (.call nnn)) {now : Nat}
    (accepted : (m.act (.step now)).stack.size ≠ m.stack.size) :
    OpenCall m.stack.toList (address (m.pc + 2)) (m.act (.step now)) := by
  cases stack_stepAt m now with
  | stays same => exact absurd (congrArg CallStack.size same) accepted
  | pushes nnn instruction pushed => exact ⟨[], (List.append_nil _).trans pushed.symm⟩
  | pops addr instruction => simp [h] at instruction

/-! ### Every run -/

/-- Whatever runs after a call (calls and returns of its own, steps that fail, ticks and keys): as
long as the stack is not back at the size it had, it is what it was with the address behind the
call on top, and more above. The act that first brings the size back is a return, which goes on
behind the call with the stack as it was. -/
theorem call_until_return {nnn : UInt16} (h : m.instruction? = some (.call nnn)) (now : Nat)
    {acts : List Act}
    (away : ∀ pre, pre <+: acts →
      ((m.act (.step now)).play pre).stack.size ≠ m.stack.size) :
    OpenCall m.stack.toList (address (m.pc + 2)) ((m.act (.step now)).play acts) ∧
      ∀ a, (((m.act (.step now)).play acts).act a).stack.size = m.stack.size →
        Closes m.stack.toList (address (m.pc + 2)) ((m.act (.step now)).play acts) a := by
  have hopen := (openCall_of_call h (away [] List.nil_prefix)).play away
  refine ⟨hopen, fun a hsize => ?_⟩
  rcases hopen.act a with hstill | hcloses
  · exact absurd hsize (Nat.ne_of_gt hstill.length_lt)
  · exact hcloses

/-- A subroutine at 204 that calls its own last word, and so returns twice. -/
def returnsTwice : Blueprint :=
  { program := [0x22, 0x04, 0x12, 0x02, 0x22, 0x06, 0x00, 0xEE], gated := false }

/-- The inner return goes on at 206, the outer one at 202. -/
theorem call_until_return_returnsTwice :
    let m := returnsTwice.machine {} (FrameBuffer.new ⟨8, 4⟩) ⟨8, 4⟩
    let acts := [.tick, .step 1, .hold (some 3), .step 2]
    m.instruction? = some (.call 0x204) ∧
      (∀ pre, pre <+: acts → ((m.act (.step 0)).play pre).stack.size ≠ m.stack.size) ∧
      (((m.act (.step 0)).play acts).act (.step 3)).stack.size = m.stack.size ∧
      Closes [] 0x202 ((m.act (.step 0)).play acts) (.step 3) := by
  intro m acts
  have hcall : m.instruction? = some (.call 0x204) := by decide +kernel
  have hinits : ∀ pre ∈ acts.inits,
      ((m.act (.step 0)).play pre).stack.size ≠ m.stack.size := by decide +kernel
  have haway := fun pre hpre => hinits pre ((List.mem_inits _ _).2 hpre)
  have hback : (((m.act (.step 0)).play acts).act (.step 3)).stack.size = m.stack.size := by
    decide +kernel
  have hbehind : address (m.pc + 2) = 0x202 := by decide
  have hcloses := (call_until_return hcall 0 haway).2 _ hback
  rw [hbehind] at hcloses
  exact ⟨hcall, haway, hback, hcloses⟩

end Chip8.Machine
