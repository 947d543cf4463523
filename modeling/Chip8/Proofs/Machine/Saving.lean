import Chip8.Proofs.Machine.Frame

/-!
Registers kept in memory. `FX55` stores registers in the row of bytes from I on and `FX65` loads
them from there; `FX33` stores the three digits of a register. None of them moves I, so what was
stored is found again, also where the row goes around the end of memory.
-/

namespace Chip8.Machine

open Memory

variable {D : Type} {m : Machine D} {now n : Nat} {x : Nibble}

/-- The address of byte `k` of the row from I on. -/
def rowAddr (m : Machine D) (k : Nat) : UInt16 :=
  address (m.index + UInt16.ofNat k)

theorem toNat_rowAddr (m : Machine D) (k : Nat) :
    (m.rowAddr k).toNat = (m.index.toNat + k) % 4096 := by
  rw [rowAddr, toNat_address_add, UInt16.toNat_ofNat']
  omega

theorem rowAddr_inj {j k : Nat} (hj : j < 4096) (hk : k < 4096)
    (h : m.rowAddr j = m.rowAddr k) : j = k := by
  have hmod := congrArg UInt16.toNat h
  rw [toNat_rowAddr, toNat_rowAddr] at hmod
  omega

/-- A step that writes a row of `n` bytes from I on, and nothing else. -/
structure StoresRow (m : Machine D) (now n : Nat) (byte : Nat → UInt8) (outcome : Outcome D) :
    Prop where
  ok : outcome.1 = .ok ()
  apart : ∀ j < n, ∀ k < n, m.rowAddr j = m.rowAddr k → j = k
  row : ∀ k < n, outcome.2.memory.read (m.rowAddr k) = byte k
  elsewhere : ∀ a, (∀ k < n, m.rowAddr k ≠ address a) →
    outcome.2.memory.read a = m.memory.read a
  index : outcome.2.index = m.index
  rest : outcome.2 = { m.passed now with memory := outcome.2.memory }
  ungated : m.gate = none →
    outcome.2 = { m with pc := address (m.pc + 2), memory := outcome.2.memory }

/-- A step that loads the registers V0 to VX from the row from I on, and nothing else. -/
structure LoadsRow (m : Machine D) (now : Nat) (x : Nibble) (outcome : Outcome D) : Prop
    extends OnlyRegs m now outcome where
  row : ∀ k ≤ x, outcome.2.reg k = m.memory.read (m.rowAddr k)
  elsewhere : ∀ k, x < k → outcome.2.reg k = m.reg k
  index : outcome.2.index = m.index

theorem storesRow_writeRow {byte : Nat → UInt8} (hn : n ≤ 4096) :
    StoresRow m now n byte
      (done { m.passed now with memory := m.memory.writeRow m.index byte n }) := by
  constructor
  case ok => rfl
  case apart => exact fun j hj k hk => rowAddr_inj (by omega) (by omega)
  case row =>
    intro k hk
    exact (read_address _ _).trans (read_writeRow hn hk)
  case elsewhere =>
    intro a ha
    refine read_writeRow_of_ne fun k hk hslot => ha k hk ?_
    have hval : (slot (m.index + UInt16.ofNat k)).val = (slot a).val := by rw [hslot]
    exact UInt16.toNat_inj.1 hval
  case index => rfl
  case rest => rfl
  case ungated =>
    intro hgate
    rw [passed_of_ungated hgate]
    rfl

theorem loadsRow_loadFirst (m : Machine D) (now : Nat) (x : Nibble) :
    LoadsRow m now x
      (done { m.passed now with regs := loadFirst m.memory m.regs m.index (x + 1) }) := by
  refine ⟨onlyRegs_done m now _, fun k hk => ?_, fun k hk => ?_, rfl⟩
  · have hlt : k.val < x.val + 1 := Nat.lt_succ_of_le hk
    exact (get_loadFirst x.isLt k).trans ((if_pos hlt).trans (read_address _ _).symm)
  · have hle : ¬ k.val < x.val + 1 := Nat.not_lt.2 (Nat.succ_le_of_lt hk)
    exact (get_loadFirst x.isLt k).trans (if_neg hle)

section Step

variable [Display D]

/-! ### One step -/

theorem stepAt_storeRegs (h : m.instruction? = some (.storeRegs x)) (now : Nat) :
    m.stepAt now = done { m.passed now with
      memory := m.memory.writeRow m.index (fun k => m.reg (Fin.ofNat 16 k)) (x + 1) } := by
  rw [stepAt_eq_execute h]
  show done { m.passed now with memory := storeFirst m.memory m.regs m.index (x + 1) } = _
  rw [storeFirst_eq_writeRow]
  rfl

theorem stepAt_storeBcd (h : m.instruction? = some (.storeBcd x)) (now : Nat) :
    m.stepAt now = done { m.passed now with
      memory := m.memory.writeRow m.index (digit (m.reg x)) 3 } := by
  rw [stepAt_eq_execute h]
  exact congrArg done (storeBcd_eq_writeRow (m.passed now) x)

theorem stepAt_loadRegs (h : m.instruction? = some (.loadRegs x)) (now : Nat) :
    m.stepAt now = done { m.passed now with
      regs := loadFirst m.memory m.regs m.index (x + 1) } :=
  stepAt_eq_execute h now

theorem storesRow_stepAt (h : m.instruction? = some (.storeRegs x)) (now : Nat) :
    StoresRow m now (x + 1) (fun k => m.reg (Fin.ofNat 16 k)) (m.stepAt now) := by
  rw [stepAt_storeRegs h]
  exact storesRow_writeRow (by omega)

theorem storesDigits_stepAt (h : m.instruction? = some (.storeBcd x)) (now : Nat) :
    StoresRow m now 3 (digit (m.reg x)) (m.stepAt now) := by
  rw [stepAt_storeBcd h]
  exact storesRow_writeRow (by omega)

theorem loadsRow_stepAt (h : m.instruction? = some (.loadRegs x)) (now : Nat) :
    LoadsRow m now x (m.stepAt now) := by
  rw [stepAt_loadRegs h]
  exact loadsRow_loadFirst m now x

/-! ### There and back -/

/-- What a row was written with is what is loaded from it. -/
theorem StoresRow.reg_stepAt {byte : Nat → UInt8} {outcome : Outcome D}
    (h : StoresRow m now n byte outcome) {m' : Machine D} (hindex : m'.index = outcome.2.index)
    (hmemory : m'.memory = outcome.2.memory) (hload : m'.instruction? = some (.loadRegs x))
    (later : Nat) {k : Nibble} (hk : k ≤ x) (hn : k < n) :
    (m'.stepAt later).2.reg k = byte k := by
  have haddr : m'.rowAddr k = m.rowAddr k := by
    rw [rowAddr, hindex, h.index, rowAddr]
  rw [(loadsRow_stepAt hload later).row k hk, haddr, hmemory]
  exact h.row k hn

/-- Registers that hold what is in a row already leave it as it is. -/
theorem LoadsRow.memory_stepAt {outcome : Outcome D} (h : LoadsRow m now x outcome)
    {m' : Machine D} (hregs : m'.regs = outcome.2.regs) (hindex : m'.index = outcome.2.index)
    (hmemory : m'.memory = outcome.2.memory) (hstore : m'.instruction? = some (.storeRegs x))
    (later : Nat) : (m'.stepAt later).2.memory = m.memory := by
  have hsame : m'.memory = m.memory := by
    rw [hmemory, h.rest]
    rfl
  rw [stepAt_storeRegs hstore, hindex, h.index, hsame]
  refine writeRow_of_read fun k hk => ?_
  have hval : (Fin.ofNat 16 k).val = k := Nat.mod_eq_of_lt (by omega)
  have hle : Fin.ofNat 16 k ≤ x := by
    rw [Fin.le_def, hval]
    omega
  have hreg : m'.reg (Fin.ofNat 16 k) = outcome.2.reg (Fin.ofNat 16 k) := by
    rw [reg, reg, hregs]
  rw [hreg, h.row _ hle, rowAddr, read_address, hval]

/-- The three instructions that work on the row of bytes from I on. `FX55` stores V0 to VX there,
and whatever becomes of the registers then, `FX65` gets them back. `FX65` loads V0 to VX from
there, and to store them again changes nothing. `FX33` stores the digits of VX there, for `FX65` to
load. -/
theorem rows_stored_and_loaded (m : Machine D) (now : Nat) :
    (∀ x, m.instruction? = some (.storeRegs x) →
      StoresRow m now (x + 1) (fun k => m.reg (Fin.ofNat 16 k)) (m.stepAt now) ∧
      ∀ (m' : Machine D) (later : Nat), m'.index = (m.stepAt now).2.index →
        m'.memory = (m.stepAt now).2.memory → m'.instruction? = some (.loadRegs x) →
        ∀ k ≤ x, (m'.stepAt later).2.reg k = m.reg k) ∧
    (∀ x, m.instruction? = some (.loadRegs x) →
      LoadsRow m now x (m.stepAt now) ∧
      ∀ (m' : Machine D) (later : Nat), m'.regs = (m.stepAt now).2.regs →
        m'.index = (m.stepAt now).2.index → m'.memory = (m.stepAt now).2.memory →
        m'.instruction? = some (.storeRegs x) → (m'.stepAt later).2.memory = m.memory) ∧
    (∀ x, m.instruction? = some (.storeBcd x) →
      ∃ byte : Nat → UInt8, (∀ k < 3, (byte k).toNat ≤ 9) ∧
        100 * (byte 0).toNat + 10 * (byte 1).toNat + (byte 2).toNat = (m.reg x).toNat ∧
        StoresRow m now 3 byte (m.stepAt now) ∧
        ∀ (m' : Machine D) (later : Nat), m'.index = (m.stepAt now).2.index →
          m'.memory = (m.stepAt now).2.memory → m'.instruction? = some (.loadRegs 2) →
          ∀ k ≤ 2, (m'.stepAt later).2.reg k = byte k) := by
  refine ⟨fun x hstore => ?_, fun x hload => ?_, fun x hdigits => ?_⟩
  · have hrow := storesRow_stepAt hstore now
    refine ⟨hrow, fun m' later hindex hmemory hload k hk => ?_⟩
    have hlt : k.val < x.val + 1 := Nat.lt_succ_of_le hk
    rw [hrow.reg_stepAt hindex hmemory hload later hk hlt, Fin.ofNat_val_eq_self]
  · have hrow := loadsRow_stepAt hload now
    refine ⟨hrow, fun m' later hregs hindex hmemory hstore => ?_⟩
    exact hrow.memory_stepAt hregs hindex hmemory hstore later
  · have hrow := storesDigits_stepAt hdigits now
    refine ⟨digit (m.reg x), fun k _ => digit_le _ k, digit_sum _, hrow, ?_⟩
    intro m' later hindex hmemory hload k hk
    exact hrow.reg_stepAt hindex hmemory hload later hk (Nat.lt_succ_of_le hk)

/-! ### What may happen in between -/

/-- Whether the instruction stores bytes or moves I. -/
def disturbsRows (i : Instruction) : Bool :=
  0 < i.storeCount || i.movesIndex

omit [Display D] in
theorem memoryAfter_of_storeCount (m : Machine D) {i : Instruction} (h : i.storeCount = 0) :
    m.memoryAfter i = m.memory := by
  cases i with
  | storeBcd | storeRegs => cases h
  | _ => rfl

theorem row_step (h : ¬ m.comes disturbsRows) :
    m.step.2.index = m.index ∧ m.step.2.memory = m.memory := by
  cases hi : m.instruction? with
  | none => rw [step_of_none hi]; exact ⟨rfl, rfl⟩
  | some i =>
      rw [comes_of_some hi] at h
      simp only [disturbsRows, Bool.or_eq_true, decide_eq_true_eq, not_or, Nat.not_lt,
        Nat.le_zero, Bool.not_eq_true] at h
      obtain ⟨hstores, hmoves⟩ := h
      rw [step_of_some hi, index_execute, memory_execute, indexAfter_of_stays _ hmoves,
        memoryAfter_of_storeCount _ hstores]
      exact ⟨rfl, rfl⟩

end Step

/-- A run that neither stores nor moves I leaves every row as it is. -/
theorem row_play [Attended D] {acts : List Act} (h : Avoids disturbsRows m acts) :
    (m.play acts).index = m.index ∧ (m.play acts).memory = m.memory := by
  induction acts generalizing m with
  | nil => exact ⟨rfl, rfl⟩
  | cons a acts ih =>
      cases a with
      | step now =>
          obtain ⟨hfirst, hrest⟩ := avoids_step.1 h
          obtain ⟨gate, timers, hgate⟩ := m.stepAt_eq now
          have hstep := row_step (m := { m with gate, timers }) hfirst
          rw [← hgate] at hstep
          exact ⟨(ih hrest).1.trans hstep.1, (ih hrest).2.trans hstep.2⟩
      | tick => exact ih (m := m.tick) (avoids_tick.1 h)
      | hold key => exact ih (m := m.act (.hold key)) (avoids_hold.1 h)

/-- Takes 254 apart across the end of memory, loads the digits, stores them again, and loads them
once more after a register was changed. -/
def digitsAcross : Blueprint where
  program :=
    [0x61, 0xFE, 0xAF, 0xFF, 0xF1, 0x33, 0xF2, 0x65, 0xF2, 0x55, 0x60, 0x09, 0xF2, 0x65]
  gated := false

/-- The digits 2, 5 and 4 are at FFF, 000 and 001. -/
theorem rows_stored_and_loaded_across :
    let m := (digitsAcross.machine {} (FrameBuffer.new ⟨8, 4⟩) ⟨8, 4⟩).play [.step 0, .step 1]
    let loaded := m.play [.step 2, .tick, .step 3]
    let stored := (loaded.stepAt 4).2
    let changed := stored.play [.step 5, .hold (some 7)]
    m.Reachable ∧ m.instruction? = some (.storeBcd 1) ∧
      (m.stepAt 2).2.memory.read 0xFFF = 2 ∧ (m.stepAt 2).2.memory.read 0x001 = 4 ∧
      loaded.instruction? = some (.storeRegs 2) ∧ stored.memory.read 0x001 = loaded.reg 2 ∧
      changed.instruction? = some (.loadRegs 2) ∧ changed.reg 0 = 9 ∧
      (changed.stepAt 6).2.reg 0 = 2 := by
  have hbuild : digitsAcross.build {} (FrameBuffer.new ⟨8, 4⟩) =
    .ok (digitsAcross.machine {} (FrameBuffer.new ⟨8, 4⟩) ⟨8, 4⟩) := rfl
  have hrun :
      let m := (digitsAcross.machine {} (FrameBuffer.new ⟨8, 4⟩) ⟨8, 4⟩).play [.step 0, .step 1]
      let loaded := m.play [.step 2, .tick, .step 3]
      let stored := (loaded.stepAt 4).2
      let changed := stored.play [.step 5, .hold (some 7)]
      m.instruction? = some (.storeBcd 1) ∧ m.rowAddr 0 = 0xFFF ∧ m.rowAddr 2 = 0x001 ∧
        m.reg 1 = 254 ∧ loaded.instruction? = some (.storeRegs 2) ∧ loaded.reg 0 = 2 ∧
        loaded.rowAddr 2 = 0x001 ∧ ¬ stored.comes disturbsRows ∧
        changed.instruction? = some (.loadRegs 2) ∧ changed.reg 0 = 9 := by
    decide +kernel
  -- The machine gets a name, so that it is not evaluated once more where its fields are compared.
  obtain ⟨m, hm⟩ : ∃ m, m = (digitsAcross.machine {} (FrameBuffer.new ⟨8, 4⟩) ⟨8, 4⟩).play
    [.step 0, .step 1] := ⟨_, rfl⟩
  have hreachable : m.Reachable := by
    rw [hm]
    exact (Reachable.built rfl hbuild).play _
  rw [← hm] at hrun ⊢
  intro m loaded stored changed
  obtain ⟨hdigits, hfirst, hlast, hvalue, hstore, hzero, hend, hsets, hload, hchanged⟩ := hrun
  obtain ⟨byte, hle, hsum, hrow, -⟩ := (rows_stored_and_loaded m 2).2.2 1 hdigits
  obtain ⟨hstored, hback⟩ := (rows_stored_and_loaded loaded 4).1 2 hstore
  -- Digits with this sum are 2, 5 and 4.
  have hsum : 100 * (byte 0).toNat + 10 * (byte 1).toNat + (byte 2).toNat = 254 := by
    rw [hsum, hvalue]
    rfl
  have h0 := hle 0 (by decide)
  have h1 := hle 1 (by decide)
  have h2 := hle 2 (by decide)
  have htwo : byte 0 = 2 := UInt8.toNat_inj.1 (show (byte 0).toNat = 2 by omega)
  have hfour : byte 2 = 4 := UInt8.toNat_inj.1 (show (byte 2).toNat = 4 by omega)
  have havoids : Avoids disturbsRows stored [.step 5, .hold (some 7)] :=
    avoids_step.2 ⟨hsets, avoids_hold.2 (avoids_nil _ _)⟩
  obtain ⟨hindex, hmemory⟩ := row_play havoids
  refine ⟨hreachable, hdigits, ?_, ?_, hstore, ?_, hload, hchanged, ?_⟩
  · rw [← hfirst, hrow.row 0 (by decide), htwo]
  · rw [← hlast, hrow.row 2 (by decide), hfour]
  · rw [← hend]
    exact hstored.row 2 (by decide)
  · rw [hback changed 6 hindex hmemory hload 0 (by decide), hzero]

end Chip8.Machine
