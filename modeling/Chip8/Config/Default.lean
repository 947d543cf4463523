/-! The configuration that is written for a user who has none. -/

namespace Chip8.Config

/-- The default configuration, with what there is to know about each field. -/
def defaultText : String := "\n".intercalate [
  "# Display backend: \"terminal\" or \"sdl\" (needs the `sdl` cargo feature)",
  "io = \"terminal\"",
  "",
  "# Built-in font name (chip48, cosmac, dream, eti) or a path to a font file.",
  "# Files ending in .txt are read as one 0b-prefixed binary row per line.",
  "font = \"chip48\"",
  "",
  "foreground = \"0xFFFFFF\"",
  "background = \"0x000000\"",
  "",
  "instructions_per_second = 700",
  "",
  "# Shifts copy VY into VX and BNNN jumps relative to V0",
  "cosmac_compatible = false",
  "",
  "# Sprites continue at the top instead of being clipped at the bottom",
  "vertical_wrapping = false",
  "",
  "# 128x64 when true, 64x32 when false. When unset, COSMAC mode uses 64x32.",
  "# extended_display = false",
  "",
  "# Program to run. The built-in demo runs when unset.",
  "# program = \"roms/ibm-logo.ch8\"",
  "",
  "# Window scaling factor for the sdl backend",
  "scale = 10",
  "",
  "# seed = 310349960114",
  "",
  "stack_size = 16",
  ""]

end Chip8.Config
