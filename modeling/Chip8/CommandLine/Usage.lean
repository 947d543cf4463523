import Chip8.CommandLine.Basic

/-! What the program answers to a user who asks about it. -/

namespace Chip8

/-- What the program can be told. -/
def usage : String := "\n".intercalate [
  "CHIP-8 Interpreter",
  "",
  "Usage: chip-8-interp [OPTIONS] [ROM]",
  "",
  "  -c, --config <PATH>        configuration file",
  "      --io <BACKEND>         terminal or sdl",
  "      --font <FONT>          chip48, cosmac, dream, eti, or a font file",
  "      --background <COLOR>   such as 0x000000",
  "      --foreground <COLOR>   such as 0xFFFFFF",
  "  -s, --scale <N>            window pixels a side of one pixel",
  "  -i, --ips <N>              instructions per second",
  "      --seed <N>             seed of the random generator",
  "      --stack-size <N>       depth of the call stack",
  "      --cosmac               follow the first interpreter",
  "      --wrap                 continue sprites at the top",
  "      --extended             use the large display",
  "  -d, --debug                log everything",
  "  -h, --help                 this text",
  "  -V, --version              the version"]

/-- The program and its version. -/
def version : String := "chip-8-interp 0.1.0"

namespace ArgumentError

/-- The answer to a question. -/
def answer? : ArgumentError → Option String
  | help => some usage
  | version => some Chip8.version
  | _ => none

theorem isSome_answer? (e : ArgumentError) : e.answer?.isSome = e.isAnswer := by
  cases e <;> rfl

end ArgumentError

end Chip8
