import Chip8.Text.Blank
import Mathlib.Data.List.TakeWhile
import Mathlib.Tactic.SplitIfs

/-!
Lines and the white space around them. Whoever trims the lines of a text need not care how each of
them ends: the carriage return that `lines` leaves in front of a lone line feed is white space.
-/

namespace Chip8.Text

/-! ### Trimming -/

theorem trim_append {before after : List Char} (hbefore : ∀ c ∈ before, isBlank c)
    (hafter : ∀ c ∈ after, isBlank c) (s : List Char) :
    trim (before ++ s ++ after) = trim s := by
  have hfront : (before ++ s ++ after).dropWhile isBlank = (s ++ after).dropWhile isBlank := by
    rw [List.append_assoc, List.dropWhile_append_of_pos hbefore]
  have hback : ∀ c ∈ after.reverse, isBlank c := fun c hc => hafter c (List.mem_reverse.1 hc)
  rw [trim, hfront, trim, List.dropWhile_append]
  split_ifs with hall
  · -- Nothing but white space is left in the middle.
    have hnone : after.dropWhile isBlank = [] := List.dropWhile_eq_nil_iff.2 hafter
    rw [hnone, List.isEmpty_iff.1 hall]
  · rw [List.reverse_append, List.dropWhile_append_of_pos hback]

theorem trim_append_return (s : List Char) : trim (s ++ ['\r']) = trim s :=
  trim_append (List.forall_mem_nil _) (List.forall_mem_singleton.2 rfl) s

theorem trim_of_no_blank {s : List Char} (h : ∀ c ∈ s, isBlank c = false) : trim s = s := by
  have hkeep (t : List Char) (ht : ∀ c ∈ t, isBlank c = false) : t.dropWhile isBlank = t := by
    cases t with
    | nil => rfl
    | cons c t => rw [List.dropWhile_cons_of_neg (by simp [ht])]
  rw [trim, hkeep s h, hkeep s.reverse fun c hc => h c (List.mem_reverse.1 hc),
    List.reverse_reverse]

/-! ### Lines -/

/-- A character that is no end of a line belongs to the line behind it. -/
theorem lines_cons {c : Char} {s line : List Char} {more : List (List Char)} (hc : c ≠ '\n')
    (hreturn : ¬ (c = '\r' ∧ s.head? = some '\n')) (h : lines s = line :: more) :
    lines (c :: s) = (c :: line) :: more := by
  unfold lines
  split <;> simp_all

/-- A line feed ends a line, with or without a carriage return before it. -/
theorem lines_append_lineFeed {body : List Char} (h : '\n' ∉ body) (rest : List Char) :
    ∃ line, lines (body ++ '\n' :: rest) = line :: lines rest ∧
      (body = line ∨ body = line ++ ['\r']) := by
  induction body with
  | nil => exact ⟨[], rfl, .inl rfl⟩
  | cons c body ih =>
      have hc : c ≠ '\n' := fun heq => h (heq ▸ List.mem_cons_self)
      have hbody : '\n' ∉ body := fun hmem => h (List.mem_cons_of_mem c hmem)
      by_cases hreturn : c = '\r' ∧ body = []
      · obtain ⟨rfl, rfl⟩ := hreturn
        exact ⟨[], rfl, .inr rfl⟩
      · obtain ⟨line, hline, hends⟩ := ih hbody
        have hnext : ¬ (c = '\r' ∧ (body ++ '\n' :: rest).head? = some '\n') := by
          rintro ⟨hc, hhead⟩
          cases body with
          | nil => exact hreturn ⟨hc, rfl⟩
          | cons d body => exact hbody (Option.some.inj hhead ▸ List.mem_cons_self)
        exact ⟨c :: line, lines_cons hc hnext hline, by simpa using hends⟩

theorem map_trim_lines_lineFeed {body : List Char} (h : '\n' ∉ body) (rest : List Char) :
    (lines (body ++ '\n' :: rest)).map trim = trim body :: (lines rest).map trim := by
  obtain ⟨line, hline, hends⟩ := lines_append_lineFeed h rest
  have htrim : trim body = trim line := by
    rcases hends with rfl | rfl
    · rfl
    · exact trim_append_return line
  rw [hline, List.map_cons, htrim]

/-- What no line feed ends is a line as well, unless it is empty. -/
theorem lines_of_not_mem {body : List Char} (h : '\n' ∉ body) (hne : body ≠ []) :
    lines body = [body] := by
  induction body with
  | nil => exact absurd rfl hne
  | cons c body ih =>
      have hc : c ≠ '\n' := fun heq => h (heq ▸ List.mem_cons_self)
      have hbody : '\n' ∉ body := fun hmem => h (List.mem_cons_of_mem c hmem)
      cases body with
      | nil => unfold lines; split <;> simp_all [lines]
      | cons d body =>
          have hd : ¬ (c = '\r' ∧ (d :: body).head? = some '\n') :=
            fun hreturn => hbody (Option.some.inj hreturn.2 ▸ List.mem_cons_self)
          exact lines_cons hc hd (ih hbody (List.cons_ne_nil d body))

end Chip8.Text
