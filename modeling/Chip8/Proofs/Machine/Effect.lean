import Chip8.Machine.Step
import Mathlib.Tactic.SplitIfs

/-!
What an instruction does to a machine, told field by field. `execute` goes through the
instructions and says for each what it changes; here each field goes through the instructions and
says which of them change it. `execute_snd` is the bridge. Whatever has to be known about a field
after an instruction is read off its own function, which has a handful of cases where `execute`
has thirty-five. The registers alone stay as they are: nearly every instruction writes one.

Drawing and clearing work on the display alone. The work is split off here (`plotAndRefresh`,
`wipeAndRefresh`): what a display goes through is said about these two, and the machine only adds
VF and the error.
-/

namespace Chip8

section DisplayWork

variable {D : Type} [Display D]

/-- What drawing does to a display: the dots, and a refresh if no dot was refused. The flag says
whether a lit pixel was put out. -/
def plotAndRefresh (display : D) (dots : List Dot) : Except DisplayError Unit × Bool × D :=
  match plot display false dots with
  | (.error e, hit, display) => (.error e, hit, display)
  | (.ok (), hit, display) =>
    ((Display.refresh display).1, hit, (Display.refresh display).2)

/-- What clearing does to a display: the pixels, and a refresh if no pixel was refused. -/
def wipeAndRefresh (display : D) (pixels : List (Nat × Nat)) : Except DisplayError Unit × D :=
  match wipe display pixels with
  | (.error e, display) => (.error e, display)
  | (.ok (), display) => Display.refresh display

end DisplayWork

namespace Machine

variable {D : Type}

@[simp] theorem done_fst (m : Machine D) : m.done.1 = .ok () := rfl

@[simp] theorem done_snd (m : Machine D) : m.done.2 = m := rfl

@[simp] theorem fail_fst (m : Machine D) (e : Error) : (m.fail e).1 = .error e := rfl

@[simp] theorem fail_snd (m : Machine D) (e : Error) : (m.fail e).2 = m := rfl

@[simp] theorem finish_fst (m : Machine D) (answer : Except DisplayError Unit) :
    (m.finish answer).1 = answer.mapError DisplayError.toError := by
  cases answer <;> rfl

@[simp] theorem finish_snd (m : Machine D) (answer : Except DisplayError Unit) :
    (m.finish answer).2 = m := by
  cases answer <;> rfl

/-! ### One equation for each operation -/

theorem skipIf_eq (m : Machine D) (condition : Bool) :
    m.skipIf condition = { m with pc := if condition then address (m.pc + 2) else m.pc } := by
  cases condition <;> rfl

theorem call_eq (m : Machine D) (addr : UInt16) :
    m.call addr = if m.stack.size < m.stack.capacity then
      done { m with
        pc := addr
        stack := { m.stack with entries := m.stack.entries.push m.pc } }
    else m.fail (.stackOverflow m.stack.size) := by
  unfold call
  split_ifs with h
  · rw [CallStack.push_of_lt h]
  · rw [CallStack.push_of_le (Nat.not_lt.1 h)]

theorem ret_eq (m : Machine D) :
    m.ret = match m.stack.entries.back? with
      | none => m.fail .stackUnderflow
      | some addr => done { m with
          pc := addr
          stack := { m.stack with entries := m.stack.entries.pop } } := by
  unfold ret CallStack.pop
  cases m.stack.entries.back? <;> rfl

/-- A call that is refused leaves the machine as it was. -/
theorem call_snd (m : Machine D) (addr : UInt16) :
    (m.call addr).2 = { m with
      pc := if m.stack.size < m.stack.capacity then addr else m.pc
      stack := if m.stack.size < m.stack.capacity then
        { m.stack with entries := m.stack.entries.push m.pc } else m.stack } := by
  rw [call_eq]
  split_ifs <;> rfl

/-- A return without a call leaves the machine as it was. -/
theorem ret_snd (m : Machine D) :
    m.ret.2 = { m with
      pc := m.stack.entries.back?.getD m.pc
      stack := { m.stack with entries := m.stack.entries.pop } } := by
  rw [ret_eq]
  cases h : m.stack.entries.back? with
  | none =>
      have hpop : m.stack.entries.pop = m.stack.entries := by
        rw [Array.back?_eq_none_iff.1 h]
        rfl
      rw [hpop]
      rfl
  | some addr => rfl

variable [Display D]

theorem draw_eq (m : Machine D) (x y n : Nibble) :
    m.draw x y n =
      let work := plotAndRefresh m.display (m.spriteDots x y n)
      finish { m with
        display := work.2.2
        regs := m.regs.set flag work.2.1.toUInt8 } work.1 := by
  unfold draw plotAndRefresh
  rcases plot m.display false (m.spriteDots x y n) with ⟨_ | _, hit, display⟩ <;> rfl

theorem clearScreen_eq (m : Machine D) :
    m.clearScreen =
      let work := wipeAndRefresh m.display m.size.positions
      finish { m with display := work.2 } work.1 := by
  unfold clearScreen wipeAndRefresh
  rcases wipe m.display m.size.positions with ⟨_ | _, display⟩ <;> rfl

theorem withKey_eq (m : Machine D) (f : Option UInt8 → Machine D → Machine D) :
    m.withKey f =
      f (Display.pollKey m.display).1 { m with display := (Display.pollKey m.display).2 } := rfl

theorem waitKey_eq (m : Machine D) (x : Nibble) :
    m.waitKey x = { m with
      display := (Display.pollKey m.display).2
      regs := match (Display.pollKey m.display).1 with
        | some key => (m.setReg x (key &&& 0xF)).regs
        | none => m.regs
      pc := match (Display.pollKey m.display).1 with
        | some _ => m.pc
        | none => address (m.pc - 2) } := by
  rw [waitKey, withKey_eq]
  cases (Display.pollKey m.display).1 <;> rfl

/-! ### Field by field -/

def indexAfter (m : Machine D) : Instruction → UInt16
  | .loadIndex nnn => nnn
  | .addIndex x => address (m.index + (m.reg x).toUInt16)
  | .loadGlyph x => fontAddr + 5 * ((m.reg x).toUInt16 &&& 0xF)
  | _ => m.index

def memoryAfter (m : Machine D) : Instruction → Memory
  | .storeBcd x => (m.storeBcd x).memory
  | .storeRegs x => storeFirst m.memory m.regs m.index (x + 1)
  | _ => m.memory

def timersAfter (m : Machine D) : Instruction → Timers
  | .setDelay x => { m.timers with delay := m.reg x }
  | .setSound x => { m.timers with sound := m.reg x }
  | _ => m.timers

def randomAfter (m : Machine D) : Instruction → Random
  | .random _ _ => m.random.advance
  | _ => m.random

/-- A call that finds the stack full, and a return that finds it empty, leave it as it is. -/
def stackAfter (m : Machine D) : Instruction → CallStack
  | .call _ =>
    if m.stack.size < m.stack.capacity then
      { m.stack with entries := m.stack.entries.push m.pc }
    else m.stack
  | .ret => { m.stack with entries := m.stack.entries.pop }
  | _ => m.stack

def displayAfter (m : Machine D) : Instruction → D
  | .clear => (wipeAndRefresh m.display m.size.positions).2
  | .draw x y n => (plotAndRefresh m.display (m.spriteDots x y n)).2.2
  | .skipKey _ | .skipNotKey _ | .waitKey _ => (Display.pollKey m.display).2
  | _ => m.display

/-- The key that the display hands out when it is asked. -/
def key? (m : Machine D) : Option UInt8 :=
  (Display.pollKey m.display).1

/-- Whether the instruction leaves out the next word. -/
def skips (m : Machine D) : Instruction → Bool
  | .skipEqImm x nn => m.reg x == nn
  | .skipNeImm x nn => m.reg x != nn
  | .skipEqReg x y => m.reg x == m.reg y
  | .skipNeReg x y => m.reg x != m.reg y
  | .skipKey x => m.key? == some (m.reg x)
  | .skipNotKey x => m.key? != some (m.reg x)
  | _ => false

/-- Whether the instruction waits for a key that is not there. -/
def waits (m : Machine D) : Instruction → Bool
  | .waitKey _ => m.key?.isNone
  | _ => false

/-- The program counter stands behind the instruction when it is executed. -/
def pcAfter (m : Machine D) : Instruction → UInt16
  | .jump nnn => nnn
  | .call nnn => if m.stack.size < m.stack.capacity then nnn else m.pc
  | .ret => m.stack.entries.back?.getD m.pc
  | .jumpOffset nnn => m.offsetTarget nnn
  | i =>
    if m.skips i then address (m.pc + 2)
    else if m.waits i then address (m.pc - 2)
    else m.pc

/-- How the instruction ends. -/
def resultAfter (m : Machine D) : Instruction → Except Error Unit
  | .clear => (wipeAndRefresh m.display m.size.positions).1.mapError DisplayError.toError
  | .draw x y n =>
    (plotAndRefresh m.display (m.spriteDots x y n)).1.mapError DisplayError.toError
  | .call _ =>
    if m.stack.size < m.stack.capacity then .ok () else .error (.stackOverflow m.stack.size)
  | .ret => if m.stack.entries.back?.isSome then .ok () else .error .stackUnderflow
  | _ => .ok ()

theorem execute_fst (m : Machine D) (i : Instruction) : (m.execute i).1 = m.resultAfter i := by
  cases i with
  | clear => rw [execute, clearScreen_eq, finish_fst]; rfl
  | draw x y n => rw [execute, draw_eq, finish_fst]; rfl
  | call nnn =>
      rw [execute, call_eq]
      by_cases h : m.stack.size < m.stack.capacity
      · rw [if_pos h]
        exact (if_pos h).symm
      · rw [if_neg h]
        exact (if_neg h).symm
  | ret =>
      rw [execute, ret_eq]
      show _ = if m.stack.entries.back?.isSome then Except.ok ()
        else Except.error Error.stackUnderflow
      cases m.stack.entries.back? <;> rfl
  | _ => rfl

theorem execute_snd (m : Machine D) (i : Instruction) :
    (m.execute i).2 = { m with
      regs := (m.execute i).2.regs
      index := m.indexAfter i
      pc := m.pcAfter i
      stack := m.stackAfter i
      timers := m.timersAfter i
      memory := m.memoryAfter i
      display := m.displayAfter i
      random := m.randomAfter i } := by
  cases i with
  | clear => rw [execute, clearScreen_eq, finish_snd]; rfl
  | draw x y n => rw [execute, draw_eq, finish_snd]; rfl
  | call nnn => rw [execute, call_snd]; rfl
  | ret => rw [execute, ret_snd]; rfl
  | skipEqImm | skipNeImm | skipEqReg | skipNeReg => rw [execute, skipIf_eq]; rfl
  | skipKey | skipNotKey => rw [execute, withKey_eq, skipIf_eq]; rfl
  | waitKey x =>
      rw [execute, waitKey_eq]
      unfold pcAfter skips waits key?
      cases (Display.pollKey m.display).1 <;> rfl
  | _ => rfl

variable (m : Machine D) (i : Instruction)

@[simp] theorem index_execute : (m.execute i).2.index = m.indexAfter i :=
  congrArg Machine.index (m.execute_snd i)

@[simp] theorem pc_execute : (m.execute i).2.pc = m.pcAfter i :=
  congrArg Machine.pc (m.execute_snd i)

@[simp] theorem stack_execute : (m.execute i).2.stack = m.stackAfter i :=
  congrArg Machine.stack (m.execute_snd i)

@[simp] theorem timers_execute : (m.execute i).2.timers = m.timersAfter i :=
  congrArg Machine.timers (m.execute_snd i)

@[simp] theorem memory_execute : (m.execute i).2.memory = m.memoryAfter i :=
  congrArg Machine.memory (m.execute_snd i)

@[simp] theorem display_execute : (m.execute i).2.display = m.displayAfter i :=
  congrArg Machine.display (m.execute_snd i)

@[simp] theorem random_execute : (m.execute i).2.random = m.randomAfter i :=
  congrArg Machine.random (m.execute_snd i)

/-! The size, the policy and the gate are chosen when a machine is built. -/

@[simp] theorem size_execute : (m.execute i).2.size = m.size := by
  rw [execute_snd]

@[simp] theorem compat_execute : (m.execute i).2.compat = m.compat := by
  rw [execute_snd]

@[simp] theorem gate_execute : (m.execute i).2.gate = m.gate := by
  rw [execute_snd]

/-! ### A step -/

omit [Display D] in
/-- The instruction that comes next; `none` if the word there is none. -/
def instruction? : Option Instruction :=
  Instruction.decode? m.fetch

variable {m i}

omit [Display D] in
theorem decode_of_none (h : m.instruction? = none) :
    Instruction.decode m.fetch m.pc = .error (.unknownOpcode m.fetch m.pc) := by
  rw [Instruction.decode, ← instruction?, h]

omit [Display D] in
theorem decode_of_some (h : m.instruction? = some i) :
    Instruction.decode m.fetch m.pc = .ok i := by
  rw [Instruction.decode, ← instruction?, h]

theorem step_of_none (h : m.instruction? = none) :
    m.step = m.advance.fail (.unknownOpcode m.fetch m.pc) := by
  rw [step, decode_of_none h]

theorem step_of_some (h : m.instruction? = some i) : m.step = m.advance.execute i := by
  rw [step, decode_of_some h]

end Machine

end Chip8
