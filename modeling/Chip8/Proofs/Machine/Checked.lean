import Chip8.Proofs.Machine.Bounds

/-!
A step in checked arithmetic. Words wrap in `Machine.step`, registers and bytes are found under
indices that cannot be wrong, and division by zero has a value. Here every sum, difference,
product, remainder, shift and look-up is one that can fail: a sum that does not fit its type, a
difference below zero, a remainder by zero, a shift as wide as its word, or an index behind the end
of its table is `none`, and so is the whole step.

The main statement is that this never happens on a machine that a run can lead to: the step in
checked arithmetic is defined there, and is the step. Numbers of the host are held to sixteen
bits, the least that a type for sizes has.
-/

namespace Chip8.Checked

/-! ### Arithmetic that may fail -/

def add16 (a b : UInt16) : Option UInt16 :=
  if a.toNat + b.toNat < 65536 then some (a + b) else none

def mul16 (a b : UInt16) : Option UInt16 :=
  if a.toNat * b.toNat < 65536 then some (a * b) else none

def shr16 (a : UInt16) (k : Nat) : Option UInt16 :=
  if k < 16 then some (a >>> UInt16.ofNat k) else none

def shr8 (a : UInt8) (k : Nat) : Option UInt8 :=
  if k < 8 then some (a >>> UInt8.ofNat k) else none

def shl8 (a : UInt8) (k : Nat) : Option UInt8 :=
  if k < 8 then some (a <<< UInt8.ofNat k) else none

def div8 (a b : UInt8) : Option UInt8 :=
  if b = 0 then none else some (a / b)

def mod8 (a b : UInt8) : Option UInt8 :=
  if b = 0 then none else some (a % b)

def addSize (a b : Nat) : Option Nat :=
  if a + b < 65536 then some (a + b) else none

def subSize (a b : Nat) : Option Nat :=
  if b ≤ a then some (a - b) else none

def modSize (a b : Nat) : Option Nat :=
  if b = 0 then none else some (a % b)

/-! ### Tables -/

def getReg (regs : Vector UInt8 16) (x : Nat) : Option UInt8 :=
  regs[x]?

def setReg (regs : Vector UInt8 16) (x : Nat) (value : UInt8) : Option (Vector UInt8 16) :=
  if h : x < 16 then some (regs.set x value h) else none

def read (mem : Memory) (addr : UInt16) : Option UInt8 :=
  mem[(address addr).toNat]?

def write (mem : Memory) (addr : UInt16) (value : UInt8) : Option Memory :=
  if h : (address addr).toNat < memorySize then some (mem.set (address addr).toNat value h)
  else none

/-- A nibble serves as the number of a register, so it has to be one. -/
def nibble (word : UInt16) (i : Nat) : Option Nibble := do
  let fromRight ← subSize 3 i
  let field := (← shr16 word (4 * fromRight)) &&& 0xF
  if h : field.toNat < 16 then some ⟨field.toNat, h⟩ else none

def byte (word : UInt16) (i : Nat) : Option UInt8 := do
  let fromRight ← subSize 1 i
  return ((← shr16 word (8 * fromRight)) &&& 0xFF).toUInt8

/-! ### The step -/

variable {D : Type}

def fetch (m : Machine D) : Option UInt16 := do
  let high ← read m.memory m.pc
  let low ← read m.memory (← add16 m.pc 1)
  return high.toUInt16 <<< 8 ||| low.toUInt16

def decode (word addr : UInt16) : Option (Except Error Instruction) := do
  let x ← nibble word 1
  let y ← nibble word 2
  let n ← nibble word 3
  let nn ← byte word 1
  let family ← nibble word 0
  return match Instruction.ofFields? family x y n nn (address word) with
    | some i => .ok i
    | none => .error (.unknownOpcode word addr)

def advance (m : Machine D) : Option (Machine D) := do
  return { m with pc := address (← add16 m.pc 2) }

def skipIf (m : Machine D) (condition : Bool) : Option (Machine D) :=
  if condition then advance m else some m

def setRegFlag (m : Machine D) (x : Nat) (value flagValue : UInt8) : Option (Machine D) := do
  let regs ← setReg m.regs x value
  return { m with regs := ← setReg regs 0xF flagValue }

def shiftSource (m : Machine D) (x y : Nibble) : Option UInt8 :=
  match m.compat.mode with
  | .cosmacVip => getReg m.regs y
  | .superChip => getReg m.regs x

def offsetTarget (m : Machine D) (nnn : UInt16) : Option UInt16 := do
  match m.compat.mode with
  | .cosmacVip =>
    return address (← add16 nnn (← getReg m.regs 0).toUInt16)
  | .superChip =>
    let x := (← shr16 nnn 8).toUInt8
    return address (← add16 (nnn &&& 0xFF) (← getReg m.regs x.toNat).toUInt16)

def spriteRow (c : Compatibility) (base offset height : Nat) : Option (Option Nat) := do
  let row ← addSize base offset
  match c.vertical with
  | .wrap => return some (← modSize row height)
  | .skip => return if row < height then some row else none

def spriteDot (data : UInt8) (row col width bit : Nat) : Option Dot := do
  let right ← addSize col bit
  let shifted ← shr8 data (← subSize 7 bit)
  return { row, col := ← modSize right width, lit := shifted &&& 1 == 1 }

def spriteDots (m : Machine D) (x y n : Nibble) : Option (List Dot) := do
  let col ← modSize (← getReg m.regs x).toNat m.size.width
  let base ← modSize (← getReg m.regs y).toNat m.size.height
  let rows ← (List.range n).mapM fun k => do
    match ← spriteRow m.compat base k m.size.height with
    | none => return []
    | some row =>
      let data ← read m.memory (← add16 m.index (UInt16.ofNat k))
      (List.range 8).mapM (spriteDot data row col m.size.width)
  return rows.flatten

def storeBcd (m : Machine D) (x : Nibble) : Option (Machine D) := do
  let value ← getReg m.regs x
  let memory ← write m.memory m.index (← div8 value 100)
  let memory ← write memory (← add16 m.index 1) (← mod8 (← div8 value 10) 10)
  return { m with memory := ← write memory (← add16 m.index 2) (← mod8 value 10) }

def storeFirst (mem : Memory) (regs : Vector UInt8 16) (addr : UInt16) (n : Nat) :
    Option Memory :=
  (List.range n).foldlM
    (fun mem k => do write mem (← add16 addr (UInt16.ofNat k)) (← getReg regs k)) mem

def loadFirst (mem : Memory) (regs : Vector UInt8 16) (addr : UInt16) (n : Nat) :
    Option (Vector UInt8 16) :=
  (List.range n).foldlM
    (fun regs k => do setReg regs k (← read mem (← add16 addr (UInt16.ofNat k)))) regs

section Execution

variable {D : Type} [Display D]

def execute (m : Machine D) : Instruction → Option (Machine.Outcome D)
  | .sys _ => some m.done
  | .clear => some m.clearScreen
  | .ret => some m.ret
  | .jump nnn => some (Machine.done { m with pc := nnn })
  | .call nnn => some (m.call nnn)
  | .skipEqImm x nn => do return (← skipIf m ((← getReg m.regs x) == nn)).done
  | .skipNeImm x nn => do return (← skipIf m ((← getReg m.regs x) != nn)).done
  | .skipEqReg x y => do
    return (← skipIf m ((← getReg m.regs x) == (← getReg m.regs y))).done
  | .skipNeReg x y => do
    return (← skipIf m ((← getReg m.regs x) != (← getReg m.regs y))).done
  | .loadImm x nn => do return Machine.done { m with regs := ← setReg m.regs x nn }
  | .addImm x nn => do
    return Machine.done { m with regs := ← setReg m.regs x ((← getReg m.regs x) + nn) }
  | .loadReg x y => do
    return Machine.done { m with regs := ← setReg m.regs x (← getReg m.regs y) }
  | .or x y => do
    let value := (← getReg m.regs x) ||| (← getReg m.regs y)
    return Machine.done { m with regs := ← setReg m.regs x value }
  | .and x y => do
    let value := (← getReg m.regs x) &&& (← getReg m.regs y)
    return Machine.done { m with regs := ← setReg m.regs x value }
  | .xor x y => do
    let value := (← getReg m.regs x) ^^^ (← getReg m.regs y)
    return Machine.done { m with regs := ← setReg m.regs x value }
  | .addReg x y => do
    let a ← getReg m.regs x
    let b ← getReg m.regs y
    return (← setRegFlag m x (a + b) (decide (256 ≤ a.toNat + b.toNat)).toUInt8).done
  | .subReg x y => do
    let a ← getReg m.regs x
    let b ← getReg m.regs y
    return (← setRegFlag m x (a - b) (decide (b ≤ a)).toUInt8).done
  | .subFromReg x y => do
    let a ← getReg m.regs x
    let b ← getReg m.regs y
    return (← setRegFlag m x (b - a) (decide (a ≤ b)).toUInt8).done
  | .shiftRight x y => do
    let value ← shiftSource m x y
    return (← setRegFlag m x (← shr8 value 1) (value &&& 1)).done
  | .shiftLeft x y => do
    let value ← shiftSource m x y
    return (← setRegFlag m x (← shl8 value 1) (← shr8 value 7)).done
  | .loadIndex nnn => some (Machine.done { m with index := nnn })
  | .jumpOffset nnn => do return Machine.done { m with pc := ← offsetTarget m nnn }
  | .random x nn => do
    let regs ← setReg m.regs x (m.random.peek.toUInt8 &&& nn)
    return Machine.done { m with regs, random := m.random.advance }
  | .draw x y n => do
    let work := plotAndRefresh m.display (← spriteDots m x y n)
    let regs ← setReg m.regs 0xF work.2.1.toUInt8
    return Machine.finish { m with display := work.2.2, regs } work.1
  | .skipKey x => do
    let (key, display) := Display.pollKey m.display
    return (← skipIf { m with display } (key == some (← getReg m.regs x))).done
  | .skipNotKey x => do
    let (key, display) := Display.pollKey m.display
    return (← skipIf { m with display } (key != some (← getReg m.regs x))).done
  | .loadDelay x => do return Machine.done { m with regs := ← setReg m.regs x m.timers.delay }
  | .waitKey x => do
    let (key, display) := Display.pollKey m.display
    match key with
    | some key =>
      return Machine.done { m with display, regs := ← setReg m.regs x (key &&& 0xF) }
    -- This difference is meant to wrap.
    | none => return Machine.done { m with display, pc := address (m.pc - 2) }
  | .setDelay x => do
    return Machine.done { m with timers := { m.timers with delay := ← getReg m.regs x } }
  | .setSound x => do
    return Machine.done { m with timers := { m.timers with sound := ← getReg m.regs x } }
  | .addIndex x => do
    let sum ← add16 m.index (← getReg m.regs x).toUInt16
    return Machine.done { m with index := address sum }
  | .loadGlyph x => do
    let digit := (← getReg m.regs x).toUInt16 &&& 0xF
    return Machine.done { m with index := ← add16 fontAddr (← mul16 5 digit) }
  | .storeBcd x => do return (← storeBcd m x).done
  | .storeRegs x => do
    return Machine.done { m with memory := ← storeFirst m.memory m.regs m.index (x + 1) }
  | .loadRegs x => do
    return Machine.done { m with regs := ← loadFirst m.memory m.regs m.index (x + 1) }

def step (m : Machine D) : Option (Machine.Outcome D) := do
  let word ← fetch m
  let next ← advance m
  match ← decode word m.pc with
  | .error e => return next.fail e
  | .ok i => execute next i

end Execution

/-! ### Where nothing can fail

A register that is named by a nibble is there, and so is a byte at an address, since memory looks
at twelve bits only. -/

section Tables

@[simp] theorem getReg_eq (regs : Vector UInt8 16) (x : Nibble) :
    getReg regs x = some (regs.get x) :=
  Vector.getElem?_eq_getElem x.isLt

@[simp] theorem setReg_eq (regs : Vector UInt8 16) (x : Nibble) (value : UInt8) :
    setReg regs x value = some (regs.set x value x.isLt) :=
  dif_pos x.isLt

@[simp] theorem read_eq (mem : Memory) (addr : UInt16) :
    read mem addr = some (mem.read addr) :=
  Vector.getElem?_eq_getElem (address_lt addr)

@[simp] theorem write_eq (mem : Memory) (addr : UInt16) (value : UInt8) :
    write mem addr value = some (mem.write addr value) :=
  dif_pos (address_lt addr)

theorem nibble_eq (word : UInt16) (i : Fin 4) :
    nibble word i = some (Opcode.nibble word i) := by
  have hi : i.val ≤ 3 := by omega
  have hk : 4 * (3 - i.val) < 16 := by omega
  have hshift : (word >>> UInt16.ofNat (4 * (3 - i.val))).toNat =
      word.toNat >>> (4 * (3 - i.val)) := by
    rw [UInt16.toNat_shiftRight, UInt16.toNat_ofNat_of_lt' (Nat.lt_trans hk (by decide)),
      Nat.mod_eq_of_lt hk]
  have hfield : ((word >>> UInt16.ofNat (4 * (3 - i.val))) &&& 0xF).toNat =
      (Opcode.nibble word i).val := by
    rw [UInt16.toNat_and, hshift]
    exact Nat.and_two_pow_sub_one_eq_mod _ 4
  have hlt : ((word >>> UInt16.ofNat (4 * (3 - i.val))) &&& 0xF).toNat < 16 := by
    rw [hfield]
    exact (Opcode.nibble word i).isLt
  simp only [nibble, subSize, shr16, if_pos hi, if_pos hk, Option.bind_eq_bind,
    Option.bind_some, dif_pos hlt]
  exact congrArg some (Fin.ext hfield)

theorem byte_eq (word : UInt16) : byte word 1 = some (Opcode.lowByte word) := by
  have hbyte : (word >>> UInt16.ofNat 0 &&& 0xFF).toUInt8 = word.toUInt8 := by
    apply UInt8.toNat_inj.1
    have hmask : word.toNat % 256 &&& 255 = word.toNat % 256 % 256 :=
      Nat.and_two_pow_sub_one_eq_mod _ 8
    simpa using hmask
  exact congrArg some hbyte

theorem decode_eq (word addr : UInt16) :
    decode word addr = some (Instruction.decode word addr) := by
  have h0 : nibble word 0 = _ := nibble_eq word 0
  have h1 : nibble word 1 = _ := nibble_eq word 1
  have h2 : nibble word 2 = _ := nibble_eq word 2
  have h3 : nibble word 3 = _ := nibble_eq word 3
  rw [decode, h0, h1, h2, h3, byte_eq]
  rfl

end Tables

/-! ### Where the bounds are needed -/

section Bounds

variable {D : Type} {m : Machine D}

theorem add16_of_lt {a b : UInt16} (h : a.toNat + b.toNat < 65536) :
    add16 a b = some (a + b) :=
  if_pos h

theorem add16_ofNat_eq {addr : UInt16} {k : Nat} (haddr : addr.toNat < 4096) (hk : k < 16) :
    add16 addr (UInt16.ofNat k) = some (addr + UInt16.ofNat k) := by
  refine add16_of_lt ?_
  rw [UInt16.toNat_ofNat_of_lt' (Nat.lt_trans hk (by decide))]
  omega

theorem add16_byte_eq {addr : UInt16} (haddr : addr.toNat < 4096) (value : UInt8) :
    add16 addr value.toUInt16 = some (addr + value.toUInt16) := by
  have hvalue : value.toUInt16.toNat < 256 := value.toNat_lt
  exact add16_of_lt (by omega)

theorem fetch_eq (h : m.pc.toNat < 4096) : fetch m = some m.fetch := by
  have hnext : add16 m.pc 1 = some (m.pc + 1) := add16_ofNat_eq (k := 1) h (by decide)
  simp only [fetch, hnext, read_eq, Option.bind_eq_bind, Option.bind_some, Option.pure_def]
  rfl

theorem advance_eq (h : m.pc.toNat < 4096) : advance m = some m.advance := by
  have hnext : add16 m.pc 2 = some (m.pc + 2) := add16_ofNat_eq (k := 2) h (by decide)
  rw [advance, hnext]
  rfl

theorem skipIf_eq (h : m.pc.toNat < 4096) (condition : Bool) :
    skipIf m condition = some (m.skipIf condition) := by
  cases condition with
  | false => rfl
  | true => exact advance_eq h

theorem setRegFlag_eq (x : Nibble) (value flagValue : UInt8) :
    setRegFlag m x value flagValue = some (m.setRegFlag x value flagValue) := by
  rw [setRegFlag, setReg_eq]
  rfl

theorem shiftSource_eq (x y : Nibble) : shiftSource m x y = some (m.shiftSource x y) := by
  unfold shiftSource Machine.shiftSource
  cases m.compat.mode <;> exact getReg_eq _ _

/-- The top nibble of an address of twelve bits is a register, though it is not masked. -/
theorem toNat_shiftRight_eight {nnn : UInt16} (h : nnn.toNat < 4096) :
    (nnn >>> 8).toUInt8.toNat = (Opcode.nibble nnn 1).val := by
  show (nnn >>> 8).toUInt8.toNat = (nnn.toNat >>> 8) % 16
  rw [UInt16.toNat_toUInt8, UInt16.toNat_shiftRight]
  simp only [UInt16.reduceToNat, Nat.reduceMod, Nat.shiftRight_eq_div_pow, Nat.reducePow]
  omega

theorem offsetTarget_eq {nnn : UInt16} (h : nnn.toNat < 4096) :
    offsetTarget m nnn = some (m.offsetTarget nnn) := by
  unfold offsetTarget Machine.offsetTarget
  cases m.compat.mode with
  | cosmacVip =>
      have hreg : getReg m.regs 0 = some (m.reg 0) := getReg_eq m.regs 0
      simp only [hreg, add16_byte_eq h, Option.bind_eq_bind, Option.bind_some, Option.pure_def]
  | superChip =>
      have hshift : shr16 nnn 8 = some (nnn >>> 8) := rfl
      have hreg : getReg m.regs (nnn >>> 8).toUInt8.toNat =
          some (m.reg (Opcode.nibble nnn 1)) := by
        rw [toNat_shiftRight_eight h]
        exact getReg_eq m.regs _
      have hlow : (nnn &&& 0xFF).toNat ≤ 255 := by
        rw [UInt16.toNat_and]
        exact Nat.and_le_right
      simp only [hshift, hreg, add16_byte_eq (Nat.lt_of_le_of_lt hlow (by decide)),
        Option.bind_eq_bind, Option.bind_some, Option.pure_def]

/-! A loop is defined if each of its turns is. -/

theorem mapM_eq_some_map {α β : Type} {f : α → Option β} {g : α → β} {l : List α}
    (h : ∀ a ∈ l, f a = some (g a)) : l.mapM f = some (l.map g) := by
  induction l with
  | nil => rfl
  | cons a l ih =>
      have htail := ih fun b hb => h b (List.mem_cons_of_mem a hb)
      rw [List.mapM_cons, h a List.mem_cons_self, htail]
      rfl

theorem foldlM_eq_some_foldl {α β : Type} {f : β → α → Option β} {g : β → α → β} {l : List α}
    (h : ∀ b, ∀ a ∈ l, f b a = some (g b a)) (b : β) : l.foldlM f b = some (l.foldl g b) := by
  induction l generalizing b with
  | nil => rfl
  | cons a l ih =>
      rw [List.foldlM_cons, h b a List.mem_cons_self]
      exact ih (fun b c hc => h b c (List.mem_cons_of_mem a hc)) (g b a)

theorem spriteRow_eq {c : Compatibility} {base offset height : Nat} (hheight : 0 < height)
    (h : base + offset < 65536) :
    spriteRow c base offset height = some (c.spriteRow base offset height) := by
  unfold spriteRow Compatibility.spriteRow addSize modSize
  rw [if_pos h]
  cases c.vertical with
  | wrap => simp [Nat.ne_of_gt hheight]
  | skip => rfl

theorem spriteDot_eq {data : UInt8} {row col width bit : Nat} (hwidth : 0 < width)
    (hcol : col < 256) (hbit : bit < 8) :
    spriteDot data row col width bit =
      some { row, col := (col + bit) % width, lit := data.toNat.testBit (7 - bit) } := by
  have hle : bit ≤ 7 := by omega
  have hk : 7 - bit < 8 := by omega
  have hsum : col + bit < 65536 := by omega
  have hlit : (data >>> UInt8.ofNat (7 - bit) &&& 1 == 1) = data.toNat.testBit (7 - bit) := by
    have hshift : (data >>> UInt8.ofNat (7 - bit)).toNat = data.toNat >>> (7 - bit) := by
      rw [UInt8.toNat_shiftRight, UInt8.toNat_ofNat_of_lt' (Nat.lt_trans hk (by decide)),
        Nat.mod_eq_of_lt hk]
    rw [Bool.eq_iff_iff, beq_iff_eq, ← UInt8.toNat_inj, UInt8.toNat_and, hshift,
      UInt8.toNat_one, Nat.and_one_is_mod, Nat.shiftRight_eq_div_pow,
      Nat.testBit_eq_decide_div_mod_eq, decide_eq_true_eq]
  simp only [spriteDot, addSize, subSize, shr8, modSize, if_pos hle, if_pos hsum, if_pos hk,
    if_neg (Nat.ne_of_gt hwidth), Option.bind_eq_bind, Option.bind_some, Option.pure_def, hlit]

theorem spriteDots_eq (h : m.Sound) (x y n : Nibble) :
    spriteDots m x y n = some (m.spriteDots x y n) := by
  have hw := Nat.ne_of_gt h.width_pos
  have hh := Nat.ne_of_gt h.height_pos
  have hx : getReg m.regs x = some (m.reg x) := getReg_eq m.regs x
  have hy : getReg m.regs y = some (m.reg y) := getReg_eq m.regs y
  have hcol : (m.reg x).toNat % m.size.width < 256 :=
    Nat.lt_of_le_of_lt (Nat.mod_le _ _) (m.reg x).toNat_lt
  have hbase : (m.reg y).toNat % m.size.height < 256 :=
    Nat.lt_of_le_of_lt (Nat.mod_le _ _) (m.reg y).toNat_lt
  simp only [spriteDots, hx, hy, modSize, if_neg hw, if_neg hh, Option.bind_eq_bind,
    Option.bind_some, Option.pure_def]
  rw [mapM_eq_some_map (g := fun k =>
    match m.compat.spriteRow ((m.reg y).toNat % m.size.height) k m.size.height with
    | none => []
    | some row =>
      Dot.ofByte (m.memory.read (m.index + UInt16.ofNat k)) row
        ((m.reg x).toNat % m.size.width) m.size.width)]
  · rfl
  · -- The base is below 256 and there are fewer than 16 rows, however large the grid is.
    intro k hk
    have hk : k < 16 := Nat.lt_trans (List.mem_range.1 hk) n.isLt
    rw [spriteRow_eq h.height_pos (by omega)]
    cases m.compat.spriteRow ((m.reg y).toNat % m.size.height) k m.size.height with
    | none => rfl
    | some row =>
        simp only [add16_ofNat_eq h.index_lt hk, read_eq, Option.bind_some]
        exact mapM_eq_some_map fun bit hbit =>
          spriteDot_eq h.width_pos hcol (List.mem_range.1 hbit)

theorem storeBcd_eq (h : m.index.toNat < 4096) (x : Nibble) :
    storeBcd m x = some (m.storeBcd x) := by
  have hnext : add16 m.index 1 = some (m.index + 1) := add16_ofNat_eq (k := 1) h (by decide)
  have hlast : add16 m.index 2 = some (m.index + 2) := add16_ofNat_eq (k := 2) h (by decide)
  have hhundreds (a : UInt8) : div8 a 100 = some (a / 100) := rfl
  have htens (a : UInt8) : div8 a 10 = some (a / 10) := rfl
  have hones (a : UInt8) : mod8 a 10 = some (a % 10) := rfl
  simp only [storeBcd, getReg_eq, hhundreds, htens, hones, hnext, hlast, write_eq,
    Option.bind_eq_bind, Option.bind_some, Option.pure_def]
  rfl

theorem storeFirst_eq {mem : Memory} {regs : Vector UInt8 16} {addr : UInt16}
    (haddr : addr.toNat < 4096) {n : Nat} (hn : n ≤ 16) :
    storeFirst mem regs addr n = some (Machine.storeFirst mem regs addr n) := by
  refine foldlM_eq_some_foldl (fun mem k hk => ?_) mem
  have hk : k < 16 := Nat.lt_of_lt_of_le (List.mem_range.1 hk) hn
  have hval : (Fin.ofNat 16 k).val = k := Nat.mod_eq_of_lt hk
  have hreg : getReg regs k = some (regs.get (Fin.ofNat 16 k)) := by rw [← getReg_eq, hval]
  simp only [add16_ofNat_eq haddr hk, hreg, write_eq, Option.bind_eq_bind, Option.bind_some]
  rfl

theorem loadFirst_eq {mem : Memory} {regs : Vector UInt8 16} {addr : UInt16}
    (haddr : addr.toNat < 4096) {n : Nat} (hn : n ≤ 16) :
    loadFirst mem regs addr n = some (Machine.loadFirst mem regs addr n) := by
  refine foldlM_eq_some_foldl (fun regs k hk => ?_) regs
  have hk : k < 16 := Nat.lt_of_lt_of_le (List.mem_range.1 hk) hn
  have hval : (Fin.ofNat 16 k).val = k := Nat.mod_eq_of_lt hk
  have hreg (value : UInt8) :
      setReg regs k value = some (regs.set (Fin.ofNat 16 k) value) := by
    rw [← setReg_eq, hval]
  simp only [add16_ofNat_eq haddr hk, hreg, read_eq, Option.bind_eq_bind, Option.bind_some]

end Bounds

/-! ### The whole step -/

section Step

variable {D : Type} [Display D] {m : Machine D}

theorem execute_eq (h : m.Sound) {i : Instruction} (hi : i.WellFormed) :
    execute m i = some (m.execute i) := by
  cases i with
  | skipEqImm | skipNeImm | skipEqReg | skipNeReg =>
      simp only [execute, getReg_eq, skipIf_eq h.pc_lt, Option.bind_eq_bind, Option.bind_some,
        Option.pure_def]
      rfl
  | skipKey | skipNotKey =>
      have hpc := (h.withDisplay (Display.pollKey m.display).2).pc_lt
      simp only [execute, getReg_eq, skipIf_eq hpc, Option.bind_eq_bind, Option.bind_some,
        Option.pure_def]
      rfl
  | waitKey x =>
      rw [execute, Machine.execute, Machine.waitKey_eq]
      cases hkey : (Display.pollKey m.display).1 with
      | none => simp only [hkey, Option.pure_def]
      | some key =>
          simp only [hkey, setReg_eq, Option.bind_eq_bind, Option.bind_some, Option.pure_def]
          rfl
  | addReg | subReg | subFromReg =>
      simp only [execute, getReg_eq, setRegFlag_eq, Option.bind_eq_bind, Option.bind_some,
        Option.pure_def]
      rfl
  | shiftRight | shiftLeft =>
      have hright (a : UInt8) : shr8 a 1 = some (a >>> 1) := rfl
      have hleft (a : UInt8) : shl8 a 1 = some (a <<< 1) := rfl
      have htop (a : UInt8) : shr8 a 7 = some (a >>> 7) := rfl
      simp only [execute, shiftSource_eq, hright, hleft, htop, setRegFlag_eq,
        Option.bind_eq_bind, Option.bind_some, Option.pure_def]
      rfl
  | jumpOffset nnn => rw [execute, offsetTarget_eq hi]; rfl
  | draw x y n => rw [execute, spriteDots_eq h, Machine.execute, Machine.draw_eq]; rfl
  | addIndex x =>
      simp only [execute, getReg_eq, add16_byte_eq h.index_lt, Option.bind_eq_bind,
        Option.bind_some, Option.pure_def]
      rfl
  | loadGlyph x =>
      have hdigit := Nat.mod_lt (m.regs.get x).toNat (show 0 < 16 by decide)
      have hmask : ((m.regs.get x).toUInt16 &&& 0xF).toNat ≤ 15 := by
        rw [UInt16.toNat_and]
        exact Nat.and_le_right
      have hmul : mul16 5 ((m.regs.get x).toUInt16 &&& 0xF) =
          some (5 * ((m.regs.get x).toUInt16 &&& 0xF)) :=
        if_pos (show 5 * ((m.regs.get x).toUInt16 &&& 0xF).toNat < 65536 by omega)
      have hsum : add16 fontAddr (5 * ((m.regs.get x).toUInt16 &&& 0xF)) =
          some (fontAddr + 5 * ((m.regs.get x).toUInt16 &&& 0xF)) := by
        refine add16_of_lt ?_
        rw [Machine.toNat_glyphOffset, show fontAddr.toNat = 80 from rfl]
        omega
      simp only [execute, getReg_eq, hmul, hsum, Option.bind_eq_bind, Option.bind_some,
        Option.pure_def]
      rfl
  | storeBcd x => rw [execute, storeBcd_eq h.index_lt]; rfl
  | storeRegs x => rw [execute, storeFirst_eq h.index_lt x.isLt]; rfl
  | loadRegs x => rw [execute, loadFirst_eq h.index_lt x.isLt]; rfl
  | sys | clear | ret | jump | call | loadIndex => rfl
  | _ =>
      simp only [execute, getReg_eq, setReg_eq, Option.bind_eq_bind, Option.bind_some,
        Option.pure_def]
      rfl

theorem step_eq (h : m.Sound) : step m = some m.step := by
  rw [step, fetch_eq h.pc_lt, advance_eq h.pc_lt]
  simp only [decode_eq, Option.bind_eq_bind, Option.bind_some, Option.pure_def]
  cases hi : m.instruction? with
  | none => rw [Machine.decode_of_none hi, Machine.step_of_none hi]
  | some i =>
      rw [Machine.decode_of_some hi, Machine.step_of_some hi]
      exact execute_eq h.advance (Instruction.wellFormed_of_decode? hi)

end Step

/-! ### Every run -/

/-- However a machine was built and whatever was done to it since, its addresses have twelve
bits, no more calls are open than the blueprint allows, and the next step is one in which no sum,
difference, look-up, remainder or shift can fail. -/
theorem step_play_eq {D : Type} [Attended D] {b : Blueprint} {around : Blueprint.Surroundings}
    {display : D} {m : Machine D} (ungated : b.gated = false)
    (h : b.build around display = .ok m) (acts : List Act) :
    (m.play acts).Sound ∧ (m.play acts).stack.capacity = b.stackSize ∧
      ∀ now, step (m.play acts) = some ((m.play acts).stepAt now) := by
  obtain ⟨hfits, rfl⟩ := Blueprint.build_eq_ok_iff.1 h
  have hsound := (Machine.sound_machine ungated hfits around display).play acts
  refine ⟨hsound, Machine.capacity_play _ acts, fun now => ?_⟩
  rw [Machine.stepAt_of_ungated hsound.ungated]
  exact step_eq hsound

/-- A program that calls itself, on a machine that allows two open calls. -/
def recursion : Blueprint :=
  { program := [0x22, 0x00], stackSize := 2, gated := false }

/-- The third call fails, and the fourth word is fetched behind it. -/
theorem step_play_recursion :
    let frame := FrameBuffer.new ⟨8, 4⟩
    let m := recursion.machine {} frame ⟨8, 4⟩
    let acts := [.step 0, .tick, .hold (some 5), .step 1, .step 2]
    recursion.gated = false ∧ recursion.build {} frame = .ok m ∧
      (m.play acts).Sound ∧ (m.play acts).stack.capacity = recursion.stackSize ∧
      ∀ now, step (m.play acts) = some ((m.play acts).stepAt now) := by
  intro frame m acts
  have hbuild : recursion.build {} frame = .ok m := rfl
  exact ⟨rfl, hbuild, step_play_eq rfl hbuild acts⟩

end Chip8.Checked
