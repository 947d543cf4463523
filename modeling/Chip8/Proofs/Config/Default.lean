import Chip8.Config.Default
import Chip8.Config.Reader

/-!
The default configuration as a text and as a value. Whoever is given the text, under whichever
name, reads the configuration in which nothing is said.
-/

namespace Chip8.Config

/-- A text that is put together from lines is read from their characters. -/
theorem parse_intercalate (lines : List String) :
    parse ("\n".intercalate lines) =
      match Toml.document (['\n'].intercalate (lines.map String.toList)) with
      | none => .error .malformed
      | some entries => ({} : Config).setAll entries := by
  rw [parse, Toml.parse, String.toList_intercalate]
  rfl

theorem exists_lines_defaultText :
    ∃ lines, defaultText = "\n".intercalate lines ∧
      ((Toml.document (['\n'].intercalate (lines.map String.toList))).bind
        fun entries => (({} : Config).setAll entries).toOption) = some {} :=
  ⟨_, rfl, by decide +kernel⟩

theorem parse_defaultText : parse defaultText = .ok {} := by
  obtain ⟨lines, hlines, hread⟩ := exists_lines_defaultText
  rw [hlines, parse_intercalate]
  obtain ⟨entries, hentries, hset⟩ := Option.bind_eq_some_iff.1 hread
  rw [hentries]
  show ({} : Config).setAll entries = _
  cases hresult : ({} : Config).setAll entries with
  | error e =>
      rw [hresult] at hset
      cases hset
  | ok config =>
      rw [hresult] at hset
      cases hset
      rfl

end Chip8.Config
