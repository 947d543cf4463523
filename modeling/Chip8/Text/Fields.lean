/-! Text that a mark divides into fields. -/

namespace Chip8.Text

/-- The fields between the marks. There is one more than there are marks. -/
def fields (mark : Char) : List Char → List (List Char)
  | [] => [[]]
  | c :: rest =>
    if c = mark then [] :: fields mark rest
    else match fields mark rest with
      | [] => [[c]]
      | field :: more => (c :: field) :: more

theorem length_fields (mark : Char) (s : List Char) :
    (fields mark s).length = s.count mark + 1 := by
  induction s with
  | nil => rfl
  | cons c rest ih =>
    unfold fields
    by_cases h : c = mark
    · simp [h, ih]
    · rw [if_neg h, List.count_cons_of_ne h]
      split <;> simp_all

end Chip8.Text
