import Chip8.Proofs.Font.Rows
import Chip8.Proofs.Text.Lines
import Mathlib.Algebra.Group.Nat.Defs

/-!
How a font may be laid out. A text that writes rows is made of lines: each writes one row, in eight
binary digits, or is one of those that the format skips. Whatever white space, line ends and
skipped lines are chosen, the text reads back as its rows; and a line of foreign characters is
reported by its place among all lines.
-/

namespace Chip8.Font

/-! ### Eight digits -/

/-- The last `width` binary digits of a number, most significant first. -/
def binaryDigits : (width : Nat) → (n : Nat) → List Char
  | 0, _ => []
  | width + 1, n => binaryDigits width (n / 2) ++ [if n % 2 = 1 then '1' else '0']

@[simp] theorem length_binaryDigits (width n : Nat) : (binaryDigits width n).length = width := by
  induction width generalizing n with
  | zero => rfl
  | succ width ih => simp [binaryDigits, ih]

theorem mem_binaryDigits {width n : Nat} {c : Char} (h : c ∈ binaryDigits width n) :
    c = '0' ∨ c = '1' := by
  induction width generalizing n with
  | zero => simp [binaryDigits] at h
  | succ width ih =>
      rcases List.mem_append.1 h with hrest | hlast
      · exact ih hrest
      · rw [List.mem_singleton] at hlast
        split_ifs at hlast
        · exact .inr hlast
        · exact .inl hlast

theorem binaryValue_append_singleton (digits : List Char) (c : Char) :
    binaryValue (digits ++ [c]) = 2 * binaryValue digits + if c = '1' then 1 else 0 :=
  List.foldl_concat ..

theorem binaryValue_binaryDigits (width n : Nat) :
    binaryValue (binaryDigits width n) = n % 2 ^ width := by
  induction width generalizing n with
  | zero => simp [binaryDigits, binaryValue, Nat.mod_one]
  | succ width ih =>
      rw [binaryDigits, binaryValue_append_singleton, ih, Nat.pow_succ', Nat.mod_mul, Nat.add_comm]
      -- Only the last digit is left to compare.
      congr 1
      rcases Nat.mod_two_eq_zero_or_one n with hbit | hbit
      · rw [hbit]
        rfl
      · rw [hbit]
        rfl

/-- A row as it is written: eight digits, behind `0b` or not. -/
def written (radix : Bool) (row : UInt8) : List Char :=
  (if radix then ['0', 'b'] else []) ++ binaryDigits 8 row.toNat

theorem isBinary_binaryDigits (row : UInt8) : IsBinary (binaryDigits 8 row.toNat) where
  nonempty h := by
    have hlength := length_binaryDigits 8 row.toNat
    rw [h] at hlength
    cases hlength
  digit _ := mem_binaryDigits
  value_le := by
    rw [binaryValue_binaryDigits]
    omega

theorem dropRadix_of_binary {digits : List Char} (h : ∀ c ∈ digits, c = '0' ∨ c = '1') :
    dropRadix digits = digits := by
  unfold dropRadix
  split
  · exact absurd (h 'b' (List.mem_cons_of_mem _ List.mem_cons_self)) (by decide)
  · rfl

theorem dropRadix_written (radix : Bool) (row : UInt8) :
    dropRadix (written radix row) = binaryDigits 8 row.toNat := by
  cases radix with
  | true => rfl
  | false => exact dropRadix_of_binary fun _ => mem_binaryDigits

theorem readsAs_written (radix : Bool) (row : UInt8) : ReadsAs (written radix row) row := by
  refine ⟨_, .inl (dropRadix_written radix row), isBinary_binaryDigits row, ?_⟩
  rw [binaryValue_binaryDigits]
  exact (Nat.mod_eq_of_lt row.toNat_lt).symm

theorem mem_written {radix : Bool} {row : UInt8} {c : Char} (h : c ∈ written radix row) :
    c = '0' ∨ c = '1' ∨ c = 'b' := by
  rcases List.mem_append.1 h with hradix | hdigit
  · cases radix with
    | true => simp at hradix; tauto
    | false => simp at hradix
  · rcases mem_binaryDigits hdigit with rfl | rfl <;> simp

theorem isSkipped_written (radix : Bool) (row : UInt8) :
    isSkipped (written radix row) = false := by
  have hne : written radix row ≠ [] := by
    refine List.append_ne_nil_of_right_ne_nil _ (isBinary_binaryDigits row).nonempty
  have hlast : (written radix row).getLast? ≠ some ':' := fun h => by
    have hcolon := mem_written (List.mem_of_getLast? h)
    revert hcolon
    decide
  simp [isSkipped, hne, hlast]

theorem trim_written (radix : Bool) (row : UInt8) :
    Text.trim (written radix row) = written radix row := by
  refine Text.trim_of_no_blank fun c hc => ?_
  rcases mem_written hc with rfl | rfl | rfl <;> rfl

/-! ### Lines -/

/-- White space beside a row, on the same line. -/
structure Margin where
  text : List Char
  blank : ∀ c ∈ text, Text.isBlank c
  inline : '\n' ∉ text

/-- A line of a font: a row between margins, or one that is blank or heads a glyph. -/
inductive Line
  | row (value : UInt8) (radix : Bool) (left right : Margin)
  | skipped (text : List Char) (inline : '\n' ∉ text)
      (blank_or_header : Text.trim text = [] ∨ (Text.trim text).getLast? = some ':')

namespace Line

/-- The characters of a line, less its end. -/
def body : Line → List Char
  | row value radix left right => left.text ++ written radix value ++ right.text
  | skipped text _ _ => text

/-- The rows that a line writes: one or none. -/
def rows : Line → List UInt8
  | row value _ _ _ => [value]
  | skipped .. => []

theorem inline (line : Line) : '\n' ∉ line.body := by
  cases line with
  | row value radix left right =>
      have hrow : '\n' ∉ written radix value := fun h => by
        have hfeed := mem_written h
        revert hfeed
        decide
      simp [body, left.inline, right.inline, hrow]
  | skipped text inline _ => exact inline

theorem forall₂_readsAs (line : Line) :
    List.Forall₂ ReadsAs ([Text.trim line.body].filter (!isSkipped ·)) line.rows := by
  cases line with
  | row value radix left right =>
      have htrim : Text.trim (body (row value radix left right)) = written radix value :=
        (Text.trim_append left.blank right.blank _).trans (trim_written radix value)
      rw [htrim, List.filter_cons_of_pos (by simp [isSkipped_written])]
      exact .cons (readsAs_written radix value) .nil
  | skipped text _ hskipped =>
      have hskip : isSkipped (Text.trim text) := by
        simpa [isSkipped] using hskipped
      rw [body, List.filter_cons_of_neg (by simp [hskip])]
      exact .nil

theorem isReadable (line : Line) : IsReadable (Text.trim line.body) := by
  by_cases hskip : isSkipped (Text.trim line.body)
  · exact .inl hskip
  · have hreads := line.forall₂_readsAs
    rw [List.filter_cons_of_pos (by simp [hskip])] at hreads
    obtain ⟨row, -, hrow, -⟩ := List.forall₂_cons_left_iff.1 hreads
    exact .inr ⟨row, hrow⟩

end Line

/-- What ends a line. -/
inductive Ending
  | lineFeed
  | returnFeed

def Ending.text : Ending → List Char
  | lineFeed => ['\n']
  | returnFeed => ['\r', '\n']

theorem map_trim_lines {body : List Char} (h : '\n' ∉ body) (ending : Ending) (rest : List Char) :
    (Text.lines (body ++ ending.text ++ rest)).map Text.trim =
      Text.trim body :: (Text.lines rest).map Text.trim := by
  cases ending with
  | lineFeed =>
      rw [Ending.text, List.append_assoc]
      exact Text.map_trim_lines_lineFeed h rest
  | returnFeed =>
      have hreturn : '\n' ∉ body ++ ['\r'] := by simp [h]
      have hlines := Text.map_trim_lines_lineFeed hreturn rest
      rw [Text.trim_append_return] at hlines
      simpa [Ending.text] using hlines

/-- A text of lines, each with its end. -/
def write (lines : List (Line × Ending)) : List Char :=
  lines.flatMap fun line => line.1.body ++ line.2.text

theorem map_trim_lines_write (lines : List (Line × Ending)) (rest : List Char) :
    (Text.lines (write lines ++ rest)).map Text.trim =
      lines.map (Text.trim ·.1.body) ++ (Text.lines rest).map Text.trim := by
  induction lines with
  | nil => rfl
  | cons line lines ih =>
      rw [write, List.flatMap_cons, List.append_assoc, map_trim_lines line.1.inline, List.map_cons,
        List.cons_append]
      exact congrArg _ ih

/-- The rows that a text writes, in order. -/
def writtenRows (lines : List (Line × Ending)) : List UInt8 :=
  lines.flatMap (·.1.rows)

theorem forall₂_write (lines : List (Line × Ending)) {rest : List (List Char)}
    {rows : List UInt8} (h : List.Forall₂ ReadsAs (rest.filter (!isSkipped ·)) rows) :
    List.Forall₂ ReadsAs
      ((lines.map (Text.trim ·.1.body) ++ rest).filter (!isSkipped ·))
      (writtenRows lines ++ rows) := by
  induction lines with
  | nil => exact h
  | cons line lines ih =>
      have hboth : List.Forall₂ ReadsAs (_ ++ _) (_ ++ _) :=
        List.rel_append line.1.forall₂_readsAs ih
      rw [← List.filter_append] at hboth
      simpa only [writtenRows, List.map_cons, List.flatMap_cons, List.append_assoc,
        List.cons_append, List.nil_append] using hboth

/-- The last line needs no end. It is no line then if nothing stands on it. -/
theorem forall₂_last (last : Line) :
    List.Forall₂ ReadsAs (((Text.lines last.body).map Text.trim).filter (!isSkipped ·))
      last.rows := by
  by_cases hbody : last.body = []
  · have hline := last.forall₂_readsAs
    rw [hbody] at hline ⊢
    exact hline
  · rw [Text.lines_of_not_mem last.inline hbody]
    exact last.forall₂_readsAs

/-- A line that is neither blank nor a header and has, behind at most one `0b`, some character that
no row has. -/
structure Foreign where
  body : List Char
  inline : '\n' ∉ body
  not_blank : Text.trim body ≠ []
  not_header : (Text.trim body).getLast? ≠ some ':'
  foreign : ∃ c ∈ dropRadix (Text.trim body), c ≠ '0' ∧ c ≠ '1' ∧ c ≠ '+'

theorem Foreign.not_isReadable (line : Foreign) : ¬ IsReadable (Text.trim line.body) := by
  rintro (hskip | ⟨row, digits, hdigits, hbinary, -⟩)
  · simp [isSkipped, line.not_blank, line.not_header] at hskip
  · obtain ⟨c, hc, hzero, hone, hplus⟩ := line.foreign
    have hdigit : c ∈ digits := by
      rcases hdigits with hplain | hsigned
      · exact hplain ▸ hc
      · rw [hsigned] at hc
        exact (List.mem_cons.1 hc).resolve_left hplus
    rcases hbinary.digit c hdigit with rfl | rfl
    · exact hzero rfl
    · exact hone rfl

theorem Foreign.body_ne_nil (line : Foreign) : line.body ≠ [] := fun h =>
  line.not_blank (by rw [h]; rfl)

theorem parse_write_foreign (lines : List (Line × Ending)) (bad : Foreign) {rest : List Char}
    {after : List (List Char)}
    (h : (Text.lines rest).map Text.trim = Text.trim bad.body :: after) :
    parse (String.ofList (write lines ++ rest)) =
      .error (.badRow (lines.length + 1) (String.ofList (Text.trim bad.body))) := by
  have htext : trimmedLines (String.ofList (write lines ++ rest)) =
      lines.map (Text.trim ·.1.body) ++ Text.trim bad.body :: after := by
    rw [trimmedLines, String.toList_ofList, map_trim_lines_write, h]
  have hbefore : ∀ line ∈ lines.map (Text.trim ·.1.body), IsReadable line := by
    intro line hline
    obtain ⟨source, -, rfl⟩ := List.mem_map.1 hline
    exact source.1.isReadable
  rw [parse_of_bad htext hbefore bad.not_isReadable, List.length_map]

/-- A text is read as the rows that it writes, up to a full font; and the first foreign line is
reported by its number, however many rows come before it and whatever comes after. -/
theorem parse_write (lines : List (Line × Ending)) :
    (∀ last : Line,
      let rows := writtenRows lines ++ last.rows
      parse (String.ofList (write lines ++ last.body)) =
        if maxSize < rows.length then .error (.tooManyRows rows.length) else .ok rows) ∧
    ∀ bad : Foreign,
      let badRow := Error.badRow (lines.length + 1) (String.ofList (Text.trim bad.body))
      parse (String.ofList (write lines ++ bad.body)) = .error badRow ∧
      ∀ (ending : Ending) (more : List Char),
        parse (String.ofList (write lines ++ (bad.body ++ ending.text ++ more))) =
          .error badRow := by
  refine ⟨fun last => ?_, fun bad => ⟨?_, fun ending more => ?_⟩⟩
  · apply parse_of_rows
    rw [rowLines, trimmedLines, String.toList_ofList, map_trim_lines_write]
    exact forall₂_write lines (forall₂_last last)
  · have hlines : (Text.lines bad.body).map Text.trim = [Text.trim bad.body] := by
      rw [Text.lines_of_not_mem bad.inline bad.body_ne_nil]
      rfl
    exact parse_write_foreign lines bad hlines
  · exact parse_write_foreign lines bad (map_trim_lines bad.inline ending more)

example : parse "0x0:\n0b11110000\n 10010000\t\n\n0x1:\r\n0b00100000\r\n" =
    .ok [0xF0, 0x90, 0x20] := by
  rfl

end Chip8.Font
