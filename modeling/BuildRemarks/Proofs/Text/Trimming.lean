import BuildRemarks.Proofs.Text.Searching

/-!
# What trimming leaves

A text is its trimmed text between blanks. That part of it is the only one that stands between
blanks and neither begins nor ends with one, so that blanks added at an end are taken off again.
-/

namespace BuildRemarks.Text

/-- All characters of the text are blank. -/
def Blanks (cs : List Char) : Prop := ∀ c ∈ cs, isBlank c = true

instance (cs : List Char) : Decidable (Blanks cs) :=
  List.decidableBAll (fun c => isBlank c = true) cs

/-- The text is `core` between blanks, and `core` neither begins nor ends with a blank. -/
structure TrimsTo (cs core : List Char) : Prop where
  between : ∃ lead trail, Blanks lead ∧ Blanks trail ∧ cs = lead ++ (core ++ trail)
  head : ∀ c, core.head? = some c → isBlank c = false
  last : ∀ c, core.getLast? = some c → isBlank c = false

theorem blanks_takeWhile (cs : List Char) : Blanks (cs.takeWhile isBlank) :=
  List.all_eq_true.1 List.all_takeWhile

theorem Blanks.reverse {cs : List Char} (h : Blanks cs) : Blanks cs.reverse :=
  fun c hc => h c (List.mem_reverse.1 hc)

/-! ### Blanks at the end -/

theorem trimEnd_prefix (cs : List Char) : trimEnd cs <+: cs := by
  rw [trimEnd, ← List.reverse_suffix, List.reverse_reverse]
  exact List.dropWhile_suffix isBlank

theorem exists_trimEnd_append (cs : List Char) :
    ∃ trail, Blanks trail ∧ cs = trimEnd cs ++ trail := by
  refine ⟨(cs.reverse.takeWhile isBlank).reverse, (blanks_takeWhile cs.reverse).reverse, ?_⟩
  rw [trimEnd, ← List.reverse_append, List.takeWhile_append_dropWhile, List.reverse_reverse]

theorem isBlank_last_trimEnd {cs : List Char} {c : Char} (h : (trimEnd cs).getLast? = some c) :
    isBlank c = false := by
  have hnot := List.head?_dropWhile_not isBlank cs.reverse
  rw [trimEnd, List.getLast?_reverse] at h
  rw [h] at hnot
  exact hnot

theorem trimEnd_append_blanks (cs : List Char) {trail : List Char} (h : Blanks trail) :
    trimEnd (cs ++ trail) = trimEnd cs := by
  rw [trimEnd, List.reverse_append, List.dropWhile_append_of_pos h.reverse, trimEnd]

/-- Nothing is taken off before a character that is not blank. -/
theorem trimEnd_append_cons {c : Char} (h : isBlank c = false) (front back : List Char) :
    trimEnd (front ++ c :: back) = front ++ c :: trimEnd back := by
  have hstop : (c :: front.reverse).dropWhile isBlank = c :: front.reverse := by
    rw [List.dropWhile_cons, h]
    rfl
  have hreverse : (front ++ c :: back).reverse = back.reverse ++ c :: front.reverse := by
    rw [List.reverse_append, List.reverse_cons, List.append_assoc, List.singleton_append]
  rw [trimEnd, hreverse, List.dropWhile_append]
  split
  · rename_i hempty
    rw [hstop, trimEnd, List.isEmpty_iff.1 hempty, List.reverse_cons, List.reverse_reverse,
      List.reverse_nil]
  · rw [List.reverse_append, List.reverse_cons, List.reverse_reverse, List.append_assoc,
      List.singleton_append, trimEnd]

/-! ### Blanks at both ends -/

theorem trim_blanks_append {lead : List Char} (h : Blanks lead) (cs : List Char) :
    trim (lead ++ cs) = trim cs := by
  rw [trim, trimStart, List.dropWhile_append_of_pos h, trim, trimStart]

theorem trim_append_blanks (cs : List Char) {trail : List Char} (h : Blanks trail) :
    trim (cs ++ trail) = trim cs := by
  rw [trim, trimStart, List.dropWhile_append, trim, trimStart]
  split
  · rename_i hempty
    have hnil : (trail ++ []).dropWhile isBlank = [] := List.dropWhile_append_of_pos h
    rw [← List.append_nil trail, hnil, List.isEmpty_iff.1 hempty]
  · exact trimEnd_append_blanks _ h

theorem trimsTo_trim (cs : List Char) : TrimsTo cs (trim cs) where
  between := by
    obtain ⟨trail, htrail, hcore⟩ := exists_trimEnd_append (trimStart cs)
    refine ⟨cs.takeWhile isBlank, trail, blanks_takeWhile cs, htrail, ?_⟩
    rw [trim, ← hcore, trimStart, List.takeWhile_append_dropWhile]
  head := by
    intro c hc
    obtain ⟨rest, hrest⟩ := trimEnd_prefix (trimStart cs)
    have hhead : (trimStart cs).head? = some c := by
      rw [← hrest, List.head?_append, ← trim, hc]
      rfl
    have hnot := List.head?_dropWhile_not isBlank cs
    rw [trimStart] at hhead
    rw [hhead] at hnot
    exact hnot
  last := fun _ hc => isBlank_last_trimEnd hc

theorem trim_eq_iff {cs core : List Char} : trim cs = core ↔ TrimsTo cs core := by
  constructor
  · rintro rfl
    exact trimsTo_trim cs
  · intro h
    obtain ⟨lead, trail, hlead, htrail, rfl⟩ := h.between
    rw [trim_blanks_append hlead, trim_append_blanks core htrail]
    exact trim_eq_self h.head h.last

end BuildRemarks.Text
