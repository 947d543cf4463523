import Chip8.Font.Text
import Mathlib.Data.List.Forall2
import Mathlib.Tactic.SplitIfs

/-!
Which texts are fonts. A line that is not skipped is a row or it is not, and one that is not decides
the whole text, before the rows are counted. A row is a binary number of one byte, and there may be
a plus sign in front of it: so a font may have rows that are more than binary digits (`IsSigned`).
Without such a row, the texts that are read are those of binary rows alone (`BinaryOnly`).
-/

namespace Chip8.Font

/-! ### One row -/

/-- Binary digits, at least one, whose value fits into a byte. -/
structure IsBinary (digits : List Char) : Prop where
  nonempty : digits ≠ []
  digit : ∀ c ∈ digits, c = '0' ∨ c = '1'
  value_le : binaryValue digits ≤ 255

theorem isBinary_iff {digits : List Char} :
    IsBinary digits ↔
      (digits.isEmpty || digits.any fun c => c != '0' && c != '1') = false ∧
        binaryValue digits < 256 := by
  constructor
  · rintro ⟨hne, hdigit, hvalue⟩
    refine ⟨?_, by omega⟩
    simp only [Bool.or_eq_false_iff, List.isEmpty_eq_false_iff, List.any_eq_false]
    refine ⟨hne, fun c hc => ?_⟩
    rcases hdigit c hc with rfl | rfl <;> decide
  · rintro ⟨hcheck, hvalue⟩
    simp only [Bool.or_eq_false_iff, List.isEmpty_eq_false_iff, List.any_eq_false] at hcheck
    refine ⟨hcheck.1, fun c hc => ?_, by omega⟩
    have hc := hcheck.2 c hc
    by_contra hnot
    simp_all

/-- The digits of a row: what stands behind a plus sign, if there is one. -/
theorem byte?_of_binary {s digits : List Char} (h : s = digits ∨ s = '+' :: digits)
    (hdigits : IsBinary digits) : byte? s = some (UInt8.ofNat (binaryValue digits)) := by
  have hunsigned : (if s.head? = some '+' then s.drop 1 else s) = digits := by
    rcases h with rfl | rfl
    · refine if_neg fun hhead => ?_
      have hplus := hdigits.digit '+' (List.mem_of_head? hhead)
      revert hplus
      decide
    · rfl
  obtain ⟨hcheck, hvalue⟩ := isBinary_iff.1 hdigits
  rw [byte?]
  simp only [hunsigned, hcheck, hvalue]
  rfl

/-- A line that is read as a row: its digits are binary, and they write the row. -/
def ReadsAs (line : List Char) (row : UInt8) : Prop :=
  ∃ digits, (dropRadix line = digits ∨ dropRadix line = '+' :: digits) ∧ IsBinary digits ∧
    row.toNat = binaryValue digits

theorem byte?_dropRadix_eq_some_iff {line : List Char} {row : UInt8} :
    byte? (dropRadix line) = some row ↔ ReadsAs line row := by
  generalize hs : dropRadix line = s
  rw [ReadsAs, hs]
  constructor
  · intro h
    have hunsigned : s = (if s.head? = some '+' then s.drop 1 else s) ∨
        s = '+' :: (if s.head? = some '+' then s.drop 1 else s) := by
      split_ifs with hhead
      · cases s with
        | nil => cases hhead
        | cons c s => cases hhead; exact .inr rfl
      · exact .inl rfl
    unfold byte? at h
    dsimp only at h
    generalize (if s.head? = some '+' then s.drop 1 else s) = digits at h hunsigned
    split_ifs at h with hcheck hvalue
    cases h
    refine ⟨digits, hunsigned, isBinary_iff.2 ⟨Bool.eq_false_iff.2 hcheck, hvalue⟩, ?_⟩
    exact UInt8.toNat_ofNat_of_lt' hvalue
  · rintro ⟨digits, hdigits, hbinary, hrow⟩
    rw [byte?_of_binary hdigits hbinary, ← hrow, UInt8.ofNat_toNat]

/-! ### The rows of a text -/

/-- Whether a line can be passed over or read. -/
def IsReadable (line : List Char) : Prop :=
  isSkipped line ∨ ∃ row, ReadsAs line row

/-- The lines of a text, less the white space around them. -/
def trimmedLines (text : String) : List (List Char) :=
  (Text.lines text.toList).map Text.trim

/-- The lines that are neither blank nor headers. -/
def rowLines (text : String) : List (List Char) :=
  (trimmedLines text).filter (!isSkipped ·)

theorem readRows_eq_ok_iff {n : Nat} {lines : List (List Char)} {rows : List UInt8} :
    readRows n lines = .ok rows ↔ List.Forall₂ ReadsAs (lines.filter (!isSkipped ·)) rows := by
  induction lines generalizing n rows with
  | nil => simp [readRows, eq_comm]
  | cons line lines ih =>
      by_cases hskipped : isSkipped line
      · rw [readRows, if_pos hskipped, List.filter_cons_of_neg (by simp [hskipped])]
        exact ih
      · rw [readRows, if_neg hskipped, List.filter_cons_of_pos (by simp [hskipped]),
          List.forall₂_cons_left_iff]
        cases hrow : byte? (dropRadix line) with
        | none =>
            simp only [← byte?_dropRadix_eq_some_iff, hrow]
            simp
        | some row =>
            simp only [← byte?_dropRadix_eq_some_iff, hrow, ← ih (n := n + 1)]
            cases readRows (n + 1) lines with
            | error e => simp [Except.map]
            | ok rest => simp [Except.map, eq_comm]

/-- The first line that cannot be read is reported, whatever stands behind it. -/
theorem readRows_of_bad {before : List (List Char)} (hbefore : ∀ line ∈ before, IsReadable line)
    {bad : List Char} (hbad : ¬ IsReadable bad) (after : List (List Char)) (n : Nat) :
    readRows n (before ++ bad :: after) =
      .error (.badRow (n + before.length) (String.ofList bad)) := by
  induction before generalizing n with
  | nil =>
      have hnone : byte? (dropRadix bad) = none :=
        Option.eq_none_iff_forall_ne_some.2 fun row hrow =>
          hbad (.inr ⟨row, byte?_dropRadix_eq_some_iff.1 hrow⟩)
      rw [List.nil_append, readRows, if_neg fun hskipped => hbad (.inl hskipped), hnone]
      rfl
  | cons line before ih =>
      obtain ⟨hline, hbefore⟩ := List.forall_mem_cons.1 hbefore
      have hrest := ih hbefore (n + 1)
      rw [Nat.add_right_comm] at hrest
      rw [List.cons_append, readRows, List.length_cons, ← Nat.add_assoc]
      split_ifs with hskipped
      · exact hrest
      · obtain ⟨row, hrow⟩ := hline.resolve_left hskipped
        rw [byte?_dropRadix_eq_some_iff.2 hrow, hrest]
        rfl

theorem readable_or_bad (lines : List (List Char)) :
    (∀ line ∈ lines, IsReadable line) ∨
      ∃ before bad after, lines = before ++ bad :: after ∧ (∀ line ∈ before, IsReadable line) ∧
        ¬ IsReadable bad := by
  induction lines with
  | nil => exact .inl (List.forall_mem_nil _)
  | cons line lines ih =>
      by_cases hline : IsReadable line
      · rcases ih with hall | ⟨before, bad, after, rfl, hbefore, hbad⟩
        · exact .inl (List.forall_mem_cons.2 ⟨hline, hall⟩)
        · exact .inr ⟨line :: before, bad, after, rfl, List.forall_mem_cons.2 ⟨hline, hbefore⟩,
            hbad⟩
      · exact .inr ⟨[], line, lines, rfl, List.forall_mem_nil _, hline⟩

theorem exists_rows {lines : List (List Char)} (h : ∀ line ∈ lines, IsReadable line) :
    ∃ rows, List.Forall₂ ReadsAs (lines.filter (!isSkipped ·)) rows := by
  induction lines with
  | nil => exact ⟨[], .nil⟩
  | cons line lines ih =>
      obtain ⟨hline, hlines⟩ := List.forall_mem_cons.1 h
      obtain ⟨rows, hrows⟩ := ih hlines
      by_cases hskipped : isSkipped line
      · rw [List.filter_cons_of_neg (by simp [hskipped])]
        exact ⟨rows, hrows⟩
      · obtain ⟨row, hrow⟩ := hline.resolve_left hskipped
        rw [List.filter_cons_of_pos (by simp [hskipped])]
        exact ⟨row :: rows, .cons hrow hrows⟩

/-! ### The grammar -/

theorem parse_eq (text : String) :
    parse text = (readRows 1 (trimmedLines text)).bind fun rows =>
      if maxSize < rows.length then .error (.tooManyRows rows.length) else .ok rows :=
  rfl

theorem parse_eq_ok_iff {text : String} {rows : List UInt8} :
    parse text = .ok rows ↔
      List.Forall₂ ReadsAs (rowLines text) rows ∧ rows.length ≤ maxSize := by
  rw [parse_eq, rowLines, ← readRows_eq_ok_iff (n := 1)]
  cases readRows 1 (trimmedLines text) with
  | error e => simp [Except.bind]
  | ok read =>
      simp only [Except.bind, Except.ok.injEq]
      split_ifs with hmany
      · simp only [false_iff]
        rintro ⟨rfl, hfew⟩
        omega
      · simp only [Except.ok.injEq]
        refine ⟨?_, fun h => h.1⟩
        rintro rfl
        exact ⟨rfl, Nat.le_of_not_lt hmany⟩

theorem parse_of_bad {text : String} {before : List (List Char)} {bad : List Char}
    {after : List (List Char)} (htext : trimmedLines text = before ++ bad :: after)
    (hbefore : ∀ line ∈ before, IsReadable line) (hbad : ¬ IsReadable bad) :
    parse text = .error (.badRow (before.length + 1) (String.ofList bad)) := by
  rw [parse_eq, htext, readRows_of_bad hbefore hbad, Nat.add_comm]
  rfl

/-- No row is bad where all lines can be read: there may only be too many of them. -/
theorem parse_of_rows {text : String} {rows : List UInt8}
    (h : List.Forall₂ ReadsAs (rowLines text) rows) :
    parse text = if maxSize < rows.length then .error (.tooManyRows rows.length) else .ok rows := by
  rw [parse_eq, readRows_eq_ok_iff.2 h]
  rfl

theorem parse_eq_badRow_iff {text : String} {k : Nat} {s : String} :
    parse text = .error (.badRow k s) ↔
      ∃ before bad after, trimmedLines text = before ++ bad :: after ∧
        (∀ line ∈ before, IsReadable line) ∧ ¬ IsReadable bad ∧
        k = before.length + 1 ∧ s = String.ofList bad := by
  constructor
  · intro h
    rcases readable_or_bad (trimmedLines text) with hall | ⟨before, bad, after, htext, hbefore, hbad⟩
    · obtain ⟨rows, hrows⟩ := exists_rows hall
      rw [parse_of_rows hrows] at h
      split_ifs at h
      cases h
    · rw [parse_of_bad htext hbefore hbad] at h
      cases h
      exact ⟨before, bad, after, htext, hbefore, hbad, rfl, rfl⟩
  · rintro ⟨before, bad, after, htext, hbefore, hbad, rfl, rfl⟩
    exact parse_of_bad htext hbefore hbad

/-- A row that is nothing but binary digits, behind at most one `0b`. -/
def IsPlain (line : List Char) : Prop :=
  IsBinary (dropRadix line)

/-- A row with a plus sign in front of its digits. -/
def IsSigned (line : List Char) : Prop :=
  ∃ digits, dropRadix line = '+' :: digits ∧ IsBinary digits

theorem exists_readsAs_iff {line : List Char} :
    (∃ row, ReadsAs line row) ↔ IsPlain line ∨ IsSigned line := by
  constructor
  · rintro ⟨row, digits, rfl | hsign, hbinary, -⟩
    · exact .inl hbinary
    · exact .inr ⟨digits, hsign, hbinary⟩
  · rintro (hplain | ⟨digits, hsign, hbinary⟩)
    · exact ⟨_, _, .inl rfl, hplain,
        UInt8.toNat_ofNat_of_lt' (Nat.lt_succ_of_le hplain.value_le)⟩
    · exact ⟨_, digits, .inr hsign, hbinary,
        UInt8.toNat_ofNat_of_lt' (Nat.lt_succ_of_le hbinary.value_le)⟩

theorem readable_iff_rows (text : String) :
    (∀ line ∈ trimmedLines text, IsReadable line) ↔
      ∀ line ∈ rowLines text, IsPlain line ∨ IsSigned line := by
  simp only [rowLines, List.mem_filter, IsReadable, exists_readsAs_iff, and_imp]
  refine forall₂_congr fun line _ => ?_
  cases isSkipped line <;> simp

/-- Of this text, the plain rows are read and any other row is an error. -/
structure BinaryOnly (text : String) : Prop where
  ok_iff (n : Nat) : (∃ rows, parse text = .ok rows ∧ rows.length = n) ↔
    n ≤ maxSize ∧ (rowLines text).length = n ∧ ∀ line ∈ rowLines text, IsPlain line
  bad_of_other : (∃ line ∈ rowLines text, ¬ IsPlain line) →
    ∃ k s, parse text = .error (.badRow k s)

theorem binaryOnly_of_plain {text : String} (h : ∀ line ∈ rowLines text, IsPlain line) :
    BinaryOnly text where
  ok_iff n := by
    obtain ⟨rows, hrows⟩ :=
      exists_rows ((readable_iff_rows text).2 fun line hline => .inl (h line hline))
    constructor
    · rintro ⟨read, hread, rfl⟩
      obtain ⟨hread, hfew⟩ := parse_eq_ok_iff.1 hread
      exact ⟨hfew, hread.length_eq, h⟩
    · rintro ⟨hfew, rfl, -⟩
      have hlength : (rowLines text).length = rows.length := hrows.length_eq
      exact ⟨rows, parse_eq_ok_iff.2 ⟨hrows, hlength ▸ hfew⟩, hlength.symm⟩
  bad_of_other := fun ⟨line, hline, hother⟩ => absurd (h line hline) hother

theorem binaryOnly_of_bad {text : String} {k : Nat} {s : String}
    (h : parse text = .error (.badRow k s)) : BinaryOnly text where
  ok_iff n := by
    constructor
    · rintro ⟨rows, hrows, -⟩
      rw [h] at hrows
      cases hrows
    · rintro ⟨-, -, hplain⟩
      obtain ⟨before, bad, after, htext, -, hbad, -⟩ := parse_eq_badRow_iff.1 h
      refine absurd ?_ hbad
      refine (readable_iff_rows text).2 (fun line hline => .inl (hplain line hline)) bad ?_
      rw [htext]
      exact List.mem_append_right _ List.mem_cons_self
  bad_of_other _ := ⟨k, s, h⟩

/-- The texts that are read, those that are refused, and those of which only plain rows are read:
all but the ones of readable rows with a sign among them. -/
theorem parse_binary_or_signed (text : String) :
    (∀ rows, parse text = .ok rows ↔
      List.Forall₂ ReadsAs (rowLines text) rows ∧ rows.length ≤ maxSize) ∧
    (∀ k s, parse text = .error (.badRow k s) ↔
      ∃ before bad after, trimmedLines text = before ++ bad :: after ∧
        (∀ line ∈ before, IsReadable line) ∧ ¬ IsReadable bad ∧
        k = before.length + 1 ∧ s = String.ofList bad) ∧
    (BinaryOnly text ↔
      ((∀ line ∈ rowLines text, IsPlain line ∨ IsSigned line) →
        ∀ line ∈ rowLines text, IsPlain line)) := by
  refine ⟨fun rows => parse_eq_ok_iff, fun k s => parse_eq_badRow_iff, ?_, ?_⟩
  · intro honly hrows line hline
    by_contra hother
    obtain ⟨k, s, hbadRow⟩ := honly.bad_of_other ⟨line, hline, hother⟩
    obtain ⟨rows, hread⟩ := exists_rows ((readable_iff_rows text).2 hrows)
    rw [parse_of_rows hread] at hbadRow
    split_ifs at hbadRow
    cases hbadRow
  · intro hplain
    rcases readable_or_bad (trimmedLines text) with hall | ⟨before, bad, after, htext, hbefore, hbad⟩
    · exact binaryOnly_of_plain (hplain ((readable_iff_rows text).1 hall))
    · exact binaryOnly_of_bad (parse_of_bad htext hbefore hbad)

/-- A plus sign is no binary digit, and is read. -/
theorem parse_signed :
    parse "0b+1111000\n" = .ok [0x78] ∧ ¬ BinaryOnly "0b+1111000\n" := by
  have hread : parse "0b+1111000\n" = .ok [0x78] := by rfl
  refine ⟨hread, fun honly => ?_⟩
  obtain ⟨-, -, hplain⟩ := (honly.ok_iff 1).1 ⟨[0x78], hread, rfl⟩
  have hdigit := (hplain "0b+1111000".toList (by decide)).digit '+' (by decide)
  revert hdigit
  decide

end Chip8.Font
