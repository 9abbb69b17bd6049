import BuildRemarks.Text.Run

/-!
# Bracketed endings

A text may end in a tag between square brackets. The tag is not empty and holds no
closing bracket.
-/

namespace BuildRemarks.Text

/-- The tag between brackets that open the text and close with it. -/
def bracketed? : List Char → Option (List Char)
  | '[' :: cs =>
    match runTo? ']' cs with
    | some (tag, []) => some tag
    | _ => none
  | _ => none

theorem bracketed?_eq_some_iff {cs tag : List Char} :
    bracketed? cs = some tag ↔ tag ≠ [] ∧ ']' ∉ tag ∧ cs = '[' :: tag ++ [']'] := by
  constructor
  · intro h
    rw [bracketed?.eq_def] at h
    split at h
    · split at h
      · rename_i cs' t hrun
        obtain ⟨hne, hnr, rfl⟩ := runTo?_eq_some_iff.1 hrun
        cases h
        exact ⟨hne, hnr, rfl⟩
      · exact absurd h (by simp)
    · exact absurd h (by simp)
  · rintro ⟨hne, hnr, rfl⟩
    have hrun : runTo? ']' (tag ++ [']']) = some (tag, []) :=
      runTo?_eq_some_iff.2 ⟨hne, hnr, rfl⟩
    rw [List.cons_append, bracketed?, hrun]

end BuildRemarks.Text
