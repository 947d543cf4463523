import Chip8.Files.Tree
import Chip8.Frontend.Scripted
import Chip8.Main
import Chip8.Proofs.Machine.Checked
import Chip8.Proofs.Machine.Contract
import Chip8.Proofs.Machine.Drawing
import Chip8.Proofs.Machine.Policy
import Chip8.Proofs.Frontend.Watched
import Chip8.Proofs.Frontend.Pacing
import Chip8.Proofs.Terminal.Release
import Chip8.Proofs.Machine.Reproducible
import Chip8.Proofs.Machine.Glyph
import Chip8.Proofs.Machine.Image
import Chip8.Proofs.Demo.Code
import Chip8.Proofs.Demo.States
import Chip8.Proofs.Demo.Digits
import Chip8.Proofs.Demo.Rounds
import Chip8.Proofs.Machine.Ticks
import Chip8.Proofs.Timers.Polling
import Chip8.Proofs.Terminal.Shown
import Chip8.Proofs.Display.History
import Chip8.Proofs.Machine.Overlap
import Chip8.Proofs.Display.Adapter
import Chip8.Proofs.Machine.Midway
import Chip8.Proofs.Timers.Counter
import Chip8.Proofs.Machine.Failure
import Chip8.Proofs.Font.Layout
import Chip8.Proofs.Terminal.Hold
import Chip8.Proofs.Machine.Saving
import Chip8.Proofs.Machine.Arithmetic
import Chip8.Proofs.Machine.Waiting
import Chip8.Proofs.Terminal.HalfBlocks
import Chip8.Proofs.Machine.Building
import Chip8.Proofs.Color.Notation
import Chip8.Proofs.Instruction.Assembly
import Chip8.Proofs.Config.Loading
import Chip8.Proofs.Machine.Table
