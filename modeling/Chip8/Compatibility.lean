/-!
The policy for the points on which interpreters differ. A machine is built with one policy,
and only shifts, the jump with offset and drawing look at it.
-/

namespace Chip8

/-- Which interpreter the shifts and the jump with offset follow. -/
inductive Mode
  /-- Shifts take VY, and `BNNN` jumps to NNN plus V0. -/
  | cosmacVip
  /-- Shifts take VX, and `BXNN` jumps to NN plus VX. -/
  | superChip
  deriving DecidableEq, Repr

instance : Inhabited Mode := ⟨.superChip⟩

/-- What becomes of sprite rows below the bottom edge. -/
inductive VerticalEdge
  /-- They continue at the top. -/
  | wrap
  /-- They are not drawn. -/
  | skip
  deriving DecidableEq, Repr

instance : Inhabited VerticalEdge := ⟨.skip⟩

structure Compatibility where
  mode : Mode := default
  vertical : VerticalEdge := default
  deriving DecidableEq, Repr, Inhabited

def Mode.text : Mode → String
  | .cosmacVip => "COSMAC_VIP"
  | .superChip => "SUPER_CHIP"

def VerticalEdge.text : VerticalEdge → String
  | .wrap => "Wrap"
  | .skip => "Skip"

namespace Compatibility

/-- The policy that the two switches of the configuration select. -/
def ofFlags (cosmac wrapping : Bool) : Compatibility where
  mode := if cosmac then .cosmacVip else .superChip
  vertical := if wrapping then .wrap else .skip

def text (c : Compatibility) : String :=
  "Compatibility \x7b mode: " ++ c.mode.text ++ ", vertical: " ++ c.vertical.text ++ " \x7d"

/-- The display row for row `offset` of a sprite drawn from row `base`, or `none` when that row
is not drawn. -/
def spriteRow (c : Compatibility) (base offset height : Nat) : Option Nat :=
  match c.vertical with
  | .wrap => some ((base + offset) % height)
  | .skip => if base + offset < height then some (base + offset) else none

/-- A row that is drawn lies on the display. -/
theorem spriteRow_lt {c : Compatibility} {base offset height row : Nat} (hpos : 0 < height)
    (h : c.spriteRow base offset height = some row) : row < height := by
  unfold spriteRow at h
  split at h
  · cases h
    exact Nat.mod_lt _ hpos
  · split at h
    · cases h
      assumption
    · cases h

end Compatibility

end Chip8
