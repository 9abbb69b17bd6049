import BuildRemarks.Proofs.Text.Searching

/-!
# Splitting what was joined

Parts without a separator are found again in the text that was joined from them.
-/

namespace BuildRemarks.Text

/-- A text is split at the first place where the separator stands. -/
theorem length_front_le_of_splitOnce? {sep cs front back a b : List Char}
    (h : splitOnce? sep cs = some (front, back)) (hcs : cs = a ++ sep ++ b) :
    front.length ≤ a.length := by
  induction cs generalizing front a with
  | nil =>
    rw [splitOnce?] at h
    split at h
    · cases h
      exact Nat.zero_le _
    · exact absurd h (by simp)
  | cons c cs ih =>
    rw [splitOnce?] at h
    split at h
    · cases h
      exact Nat.zero_le _
    · rename_i hnot
      obtain ⟨p, hp, he⟩ := Option.map_eq_some_iff.1 h
      cases he
      cases a with
      | nil =>
        rw [List.nil_append] at hcs
        rw [isPrefixOf?_eq_some_iff.2 hcs] at hnot
        exact absurd hnot (by simp)
      | cons d a =>
        have hrest : cs = a ++ sep ++ b := (List.cons.inj hcs).2
        exact Nat.succ_le_succ (ih hp hrest)

end BuildRemarks.Text
