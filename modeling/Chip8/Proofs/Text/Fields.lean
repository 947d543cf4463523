import Chip8.Text.Fields
import Mathlib.Tactic.SplitIfs

/-!
Fields of texts that are put together. A mark between two texts divides all fields of the first from
all fields of the second.
-/

namespace Chip8.Text

variable {mark : Char} {s : List Char}

theorem fields_append_mark (s rest : List Char) :
    fields mark (s ++ mark :: rest) = fields mark s ++ fields mark rest := by
  induction s with
  | nil => simp [fields]
  | cons c s ih =>
      rw [List.cons_append, fields, fields]
      split_ifs with hc
      · rw [ih, List.cons_append]
      · rw [ih]
        cases hs : fields mark s with
        | nil =>
            have hlength := length_fields mark s
            rw [hs] at hlength
            cases hlength
        | cons field more => rfl

theorem fields_of_not_mem (h : mark ∉ s) : fields mark s = [s] := by
  induction s with
  | nil => rfl
  | cons c s ih =>
      have hc : c ≠ mark := fun heq => h (heq ▸ List.mem_cons_self)
      have hs : mark ∉ s := fun hmem => h (List.mem_cons_of_mem c hmem)
      rw [fields, if_neg hc, ih hs]

theorem fields_append_of_not_mem (h : mark ∉ s) (rest : List Char) :
    fields mark (s ++ mark :: rest) = s :: fields mark rest := by
  rw [fields_append_mark, fields_of_not_mem h]
  rfl

/-- Only marks are lost. -/
theorem exists_mem_fields {c : Char} (hmem : c ∈ s) (hc : c ≠ mark) :
    ∃ field ∈ fields mark s, c ∈ field := by
  induction s with
  | nil => cases hmem
  | cons d s ih =>
      rw [fields]
      split_ifs with hd
      · have hs : c ∈ s := (List.mem_cons.1 hmem).resolve_left fun heq => hc (heq.trans hd)
        obtain ⟨field, hfield, hin⟩ := ih hs
        exact ⟨field, List.mem_cons_of_mem _ hfield, hin⟩
      · rcases List.mem_cons.1 hmem with rfl | hs
        · split
          · exact ⟨[c], List.mem_cons_self, List.mem_cons_self⟩
          · exact ⟨_, List.mem_cons_self, List.mem_cons_self⟩
        · obtain ⟨field, hfield, hin⟩ := ih hs
          split
          case h_1 hnone =>
            rw [hnone] at hfield
            cases hfield
          case h_2 first more hsome =>
            rw [hsome] at hfield
            rcases List.mem_cons.1 hfield with rfl | hmore
            · exact ⟨_, List.mem_cons_self, List.mem_cons_of_mem _ hin⟩
            · exact ⟨field, List.mem_cons_of_mem _ hmore, hin⟩

end Chip8.Text
