import Chip8.Instruction.Mnemonic
import Chip8.Log
import Chip8.Machine.Sprite

/-!
One step of a machine: fetch the word at the program counter, move on, decode, execute. The
first error ends the step, and what was done until then stays done.
-/

namespace Chip8.Machine

variable {D : Type}

/-- Ends a step with what the display answered. -/
def finish (m : Machine D) : Except DisplayError Unit → Outcome D
  | .ok () => m.done
  | .error e => m.fail e.toError

/-- Lets the display show the grid, as the last thing in a step. -/
def refresh [Display D] (m : Machine D) : Outcome D :=
  let (answer, display) := Display.refresh m.display
  finish { m with display } answer

/-- `00E0`: puts out every pixel of the grid. -/
def clearScreen [Display D] (m : Machine D) : Outcome D :=
  match wipe m.display m.size.positions with
  | (.error e, display) => finish { m with display } (.error e)
  | (.ok (), display) => refresh { m with display }

/-- `DXYN`: draws a sprite, and says in VF whether it put out a lit pixel. The coordinates are
read before VF is written. -/
def draw [Display D] (m : Machine D) (x y n : Nibble) : Outcome D :=
  match plot m.display false (m.spriteDots x y n) with
  | (.error e, hit, display) =>
    finish ({ m with display }.setReg flag hit.toUInt8) (.error e)
  | (.ok (), hit, display) => refresh ({ m with display }.setReg flag hit.toUInt8)

/-- `00EE` -/
def ret (m : Machine D) : Outcome D :=
  match m.stack.pop with
  | .error e => m.fail e
  | .ok (pc, stack) => done { m with pc, stack }

/-- `2NNN` -/
def call (m : Machine D) (addr : UInt16) : Outcome D :=
  match m.stack.push m.pc with
  | .error e => m.fail e
  | .ok stack => done { m with pc := addr, stack }

/-- The byte that a shift shifts. -/
def shiftSource (m : Machine D) (x y : Nibble) : UInt8 :=
  match m.compat.mode with
  | .cosmacVip => m.reg y
  | .superChip => m.reg x

/-- Where the jump with offset leads. -/
def offsetTarget (m : Machine D) (nnn : UInt16) : UInt16 :=
  match m.compat.mode with
  | .cosmacVip => address (nnn + (m.reg 0).toUInt16)
  | .superChip => address ((nnn &&& 0xFF) + (m.reg (Opcode.nibble nnn 1)).toUInt16)

/-- `8XY4`: the flag says whether the sum needs a ninth bit. -/
def addRegs (m : Machine D) (x y : Nibble) : Machine D :=
  let a := m.reg x
  let b := m.reg y
  m.setRegFlag x (a + b) (decide (256 ≤ a.toNat + b.toNat)).toUInt8

/-- `8XY5` and `8XY7`: `a` less `b`; the flag says that nothing had to be borrowed. -/
def subtract (m : Machine D) (x : Nibble) (a b : UInt8) : Machine D :=
  m.setRegFlag x (a - b) (decide (b ≤ a)).toUInt8

/-- Asks the display for a key and lets `f` go on with the answer. -/
def withKey [Display D] (m : Machine D) (f : Option UInt8 → Machine D → Machine D) :
    Machine D :=
  let (key, display) := Display.pollKey m.display
  f key { m with display }

/-- `FX0A`: without a key, the same word comes next again. -/
def waitKey [Display D] (m : Machine D) (x : Nibble) : Machine D :=
  m.withKey fun key m =>
    match key with
    | some key => m.setReg x (key &&& 0xF)
    | none => { m with pc := address (m.pc - 2) }

/-- `FX33`: hundreds, tens and ones, one byte each. -/
def storeBcd (m : Machine D) (x : Nibble) : Machine D :=
  let value := m.reg x
  let memory := m.memory.write m.index (value / 100)
  let memory := memory.write (m.index + 1) (value / 10 % 10)
  { m with memory := memory.write (m.index + 2) (value % 10) }

/-- Writes the first `n` registers to memory from `addr` on. -/
def storeFirst (mem : Memory) (regs : Vector UInt8 16) (addr : UInt16) (n : Nat) : Memory :=
  (List.range n).foldl
    (fun mem k => mem.write (addr + UInt16.ofNat k) regs[Fin.ofNat 16 k]) mem

/-- Reads the first `n` registers from memory from `addr` on. -/
def loadFirst (mem : Memory) (regs : Vector UInt8 16) (addr : UInt16) (n : Nat) :
    Vector UInt8 16 :=
  (List.range n).foldl
    (fun regs k => regs.set (Fin.ofNat 16 k) (mem.read (addr + UInt16.ofNat k))) regs

/-- Executes an instruction; the program counter stands behind it already. -/
def execute [Display D] (m : Machine D) : Instruction → Outcome D
  | .sys _ => m.done
  | .clear => m.clearScreen
  | .ret => m.ret
  | .jump nnn => done { m with pc := nnn }
  | .call nnn => m.call nnn
  | .skipEqImm x nn => (m.skipIf (m.reg x == nn)).done
  | .skipNeImm x nn => (m.skipIf (m.reg x != nn)).done
  | .skipEqReg x y => (m.skipIf (m.reg x == m.reg y)).done
  | .skipNeReg x y => (m.skipIf (m.reg x != m.reg y)).done
  | .loadImm x nn => (m.setReg x nn).done
  | .addImm x nn => (m.setReg x (m.reg x + nn)).done
  | .loadReg x y => (m.setReg x (m.reg y)).done
  | .or x y => (m.setReg x (m.reg x ||| m.reg y)).done
  | .and x y => (m.setReg x (m.reg x &&& m.reg y)).done
  | .xor x y => (m.setReg x (m.reg x ^^^ m.reg y)).done
  | .addReg x y => (m.addRegs x y).done
  | .subReg x y => (m.subtract x (m.reg x) (m.reg y)).done
  | .subFromReg x y => (m.subtract x (m.reg y) (m.reg x)).done
  | .shiftRight x y =>
    let value := m.shiftSource x y
    (m.setRegFlag x (value >>> 1) (value &&& 1)).done
  | .shiftLeft x y =>
    let value := m.shiftSource x y
    (m.setRegFlag x (value <<< 1) (value >>> 7)).done
  | .loadIndex nnn => done { m with index := nnn }
  | .jumpOffset nnn => done { m with pc := m.offsetTarget nnn }
  | .random x nn =>
    done ({ m with random := m.random.advance }.setReg x (m.random.peek.toUInt8 &&& nn))
  | .draw x y n => m.draw x y n
  | .skipKey x => (m.withKey fun key m => m.skipIf (key == some (m.reg x))).done
  | .skipNotKey x => (m.withKey fun key m => m.skipIf (key != some (m.reg x))).done
  | .loadDelay x => (m.setReg x m.timers.delay).done
  | .waitKey x => (m.waitKey x).done
  | .setDelay x => done { m with timers := { m.timers with delay := m.reg x } }
  | .setSound x => done { m with timers := { m.timers with sound := m.reg x } }
  | .addIndex x => done { m with index := address (m.index + (m.reg x).toUInt16) }
  | .loadGlyph x =>
    done { m with index := fontAddr + 5 * ((m.reg x).toUInt16 &&& 0xF) }
  | .storeBcd x => (m.storeBcd x).done
  | .storeRegs x => done { m with memory := storeFirst m.memory m.regs m.index (x + 1) }
  | .loadRegs x => done { m with regs := loadFirst m.memory m.regs m.index (x + 1) }

/-- The word at the program counter. -/
def fetch (m : Machine D) : UInt16 :=
  m.memory.readWord m.pc

/-- One instruction, with the timers left to `tick`. -/
def step [Display D] (m : Machine D) : Outcome D :=
  match Instruction.decode m.fetch m.pc with
  | .error e => m.advance.fail e
  | .ok instruction => m.advance.execute instruction

/-- One instruction at the instant `now`. The gate counts before the instruction is executed,
and nothing before that looks at the timers. -/
def stepAt [Display D] (now : Nat) (m : Machine D) : Outcome D :=
  (m.tickUntil now).step

/-- What the next step logs: the instruction, before it is executed, and a routine call that is
passed over. -/
def stepLog (m : Machine D) : List LogLine :=
  match Instruction.decode? m.fetch with
  | none => []
  | some instruction =>
    ⟨.trace, "0x" ++ Text.paddedHex 3 m.pc.toNat ++ ": " ++ Text.fixedHex 4 m.fetch.toNat
      ++ " " ++ instruction.mnemonic⟩ ::
    match instruction with
    | .sys nnn =>
      [⟨.debug, "ignoring machine routine call to 0x" ++ Text.paddedHex 3 nnn.toNat⟩]
    | _ => []

end Chip8.Machine
