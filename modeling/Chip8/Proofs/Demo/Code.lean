import Chip8.Demo
import Chip8.Proofs.Machine.Footprint
import Chip8.Proofs.Machine.Image
import Chip8.Proofs.Machine.Run
import Chip8.Proofs.Machine.Sprite

/-!
The built-in program, read as instructions. None of them writes memory or touches the stack, so a
machine that was built with the program keeps it (`Loaded`), and at each of the sixteen places it
always finds the same instruction.
-/

namespace Chip8.Demo

def code : List Instruction := [
  .clear,
  .loadImm 0 0,
  .loadImm 1 28,
  .loadImm 2 13,
  .loadGlyph 0,
  .draw 1 2 5,
  .loadImm 3 30,
  .setDelay 3,
  .loadDelay 3,
  .skipEqImm 3 0,
  .jump 0x210,
  .draw 1 2 5,
  .addImm 0 1,
  .skipNeImm 0 16,
  .loadImm 0 0,
  .jump 0x208]

/-- The address of instruction `k`. -/
def place (k : Nat) : UInt16 :=
  programAddr + UInt16.ofNat (2 * k)

theorem decode_program : ∀ k < 16, Instruction.decode?
    ((demoProgram.getD (2 * k) 0).toUInt16 <<< 8 ||| (demoProgram.getD (2 * k + 1) 0).toUInt16) =
      code[k]? := by
  decide

theorem address_place_add_two : ∀ k < 15, address (place k + 2) = place (k + 1) := by
  decide

theorem toNat_place : ∀ k < 16, (place k).toNat = 0x200 + 2 * k := by
  decide

/-- A machine that still is as it was built with the program, apart from what the program works
with: registers, timers and the pixels of its framebuffer. -/
structure Loaded (b : Blueprint) (m : Machine FrameBuffer) : Prop where
  program : b.program = demoProgram
  font : b.font.length ≤ Font.maxSize
  memory_eq : m.memory = b.image
  entries_eq : m.stack.entries = #[]
  ungated : m.gate = none
  compat_eq : m.compat = b.compat
  fills : m.FillsFrame

namespace Loaded

variable {b : Blueprint} {m : Machine FrameBuffer} {k : Nat} {i : Instruction}

theorem step_eq (h : Loaded b m) (hi : code[k]? = some i) (hpc : m.pc = place k) :
    m.step = m.advance.execute i := by
  have hk : k < 16 := (List.getElem?_eq_some_iff.1 hi).1
  have hword := Blueprint.readWord_image h.font (i := 2 * k) (by omega)
  refine Machine.step_of_some ?_
  rw [Machine.instruction?, Machine.fetch, h.memory_eq, hpc, place, hword, h.program,
    decode_program k hk, hi]

theorem of_step (h : Loaded b m) (hi : code[k]? = some i) (hpc : m.pc = place k) :
    Loaded b m.step.2 := by
  have hkept : m.advance.memoryAfter i = m.memory ∧ m.advance.stackAfter i = m.stack := by
    have hmem := List.mem_of_getElem? hi
    simp only [code, List.mem_cons, List.not_mem_nil, or_false] at hmem
    rcases hmem with rfl | rfl | rfl | rfl | rfl | rfl | rfl | rfl | rfl | rfl | rfl | rfl | rfl |
      rfl | rfl | rfl
    all_goals exact ⟨rfl, rfl⟩
  have hfills : m.advance.FillsFrame := { h.fills with }
  rw [h.step_eq hi hpc]
  constructor
  · exact h.program
  · exact h.font
  · rw [Machine.memory_execute, hkept.1, h.memory_eq]
  · rw [Machine.stack_execute, hkept.2, h.entries_eq]
  · rw [Machine.gate_execute]
    exact h.ungated
  · rw [Machine.compat_execute]
    exact h.compat_eq
  · exact hfills.execute i

theorem tick (h : Loaded b m) : Loaded b m.tick :=
  { h with fills := { h.fills with } }

theorem hold (h : Loaded b m) (key : Option UInt8) :
    Loaded b { m with display := Attended.hold key m.display } := by
  have hfills : Machine.FillsFrame { m with display := Attended.hold key m.display } := by
    cases key <;> exact { h.fills with }
  exact { h with fills := hfills }

end Loaded

end Chip8.Demo
