import BuildRemarks.Proofs.Kernel.Attribution
import BuildRemarks.Proofs.Kernel.SharedLines

/-!
# Which lines the scan takes in

The pass tag of a text is what its last brackets enclose, from the first opening bracket on that
nothing closes before the end. A line of a stream is about a kernel if it has the mark of remarks
and its pass tag, if it has one, names the kernel pass.
-/

namespace BuildRemarks.Kernel

/-- A remark without a tag, or with one that names the kernel pass. -/
def KernelLine (line : List Char) : Prop :=
  ∃ body, line = remarkMark.toList ++ body ∧ ∀ tag, EndsInTag body tag → kernelTag <:+: tag

/-- A remark with a tag that does not name the kernel pass. -/
def OtherPassLine (line : List Char) : Prop :=
  ∃ body tag, line = remarkMark.toList ++ body ∧ EndsInTag body tag ∧ ¬ kernelTag <:+: tag

/-! ### Lines -/

theorem kernelLine?_of_unmarked {line : List Char} (h : ¬ remarkMark.toList <+: line) :
    kernelLine? line = none := by
  rw [kernelLine?, Text.after?_eq_none h]

theorem kernelLine?_of_tags {body : List Char}
    (h : ∀ tag, EndsInTag body tag → kernelTag <:+: tag) :
    kernelLine? (remarkMark.toList ++ body) = some body := by
  simp only [kernelLine?, Text.after?_append]
  split
  · rename_i tag htag
    exact if_pos ((Text.occursIn_iff _ _).2 (h tag (endsInTag_of_passTagOf htag)))
  · rfl

theorem OtherPassLine.kernelLine?_eq_none {line : List Char} (h : OtherPassLine line) :
    kernelLine? line = none := by
  obtain ⟨body, tag, rfl, hends, hother⟩ := h
  simp only [kernelLine?, Text.after?_append, passTagOf_eq_some_iff.2 hends]
  exact if_neg (mt (Text.occursIn_iff _ _).1 hother)

theorem OtherPassLine.getLast? {line : List Char} (h : OtherPassLine line) :
    line.getLast? = some ']' := by
  obtain ⟨body, tag, rfl, ⟨front, rfl, -⟩, -⟩ := h
  exact Text.getLast?_append_of_some (Text.getLast?_append_of_some
    (Text.getLast?_cons_of_some List.getLast?_concat '['))

theorem otherPassLine_of_passTagOf {body tag : List Char} (h : passTagOf body = some tag)
    (hother : ¬ kernelTag <:+: tag) : OtherPassLine (remarkMark.toList ++ body) :=
  ⟨body, tag, rfl, passTagOf_eq_some_iff.1 h, hother⟩

theorem kernelLine_or_otherPassLine {line : List Char} (h : remarkMark.toList <+: line) :
    KernelLine line ∨ OtherPassLine line := by
  obtain ⟨body, rfl⟩ := h
  by_cases htags : ∀ tag, EndsInTag body tag → kernelTag <:+: tag
  · exact Or.inl ⟨body, rfl, htags⟩
  · simp only [Classical.not_forall] at htags
    obtain ⟨tag, hends, hother⟩ := htags
    exact Or.inr ⟨body, tag, rfl, hends, hother⟩

theorem isSome_kernelLine?_iff {line : List Char} :
    (kernelLine? line).isSome = true ↔ KernelLine line := by
  constructor
  · intro h
    by_cases hmark : remarkMark.toList <+: line
    · refine (kernelLine_or_otherPassLine hmark).resolve_right fun hother => ?_
      rw [hother.kernelLine?_eq_none] at h
      exact absurd h (by simp)
    · rw [kernelLine?_of_unmarked hmark] at h
      exact absurd h (by simp)
  · rintro ⟨body, rfl, htags⟩
    rw [kernelLine?_of_tags htags]
    rfl

instance (line : List Char) : Decidable (KernelLine line) :=
  decidable_of_iff _ isSome_kernelLine?_iff

/-! ### The remarks of a stream -/

theorem countP_isKernelLine (lines : List String) :
    lines.countP isKernelLine = (lines.filter fun line => KernelLine line.toList).length := by
  rw [← List.countP_eq_length_filter]
  refine List.countP_congr fun line _ => ?_
  rw [isKernelLine, decide_eq_true_iff]
  exact isSome_kernelLine?_iff

/-- There is one kernel remark for every line about a kernel. -/
theorem kernelCount_remarksOfLines (lines : List String) :
    kernelCount (remarksOfLines lines) =
      (lines.filter fun line => KernelLine line.toList).length := by
  obtain ⟨totals, htotals⟩ := remarksOfLines_eq lines
  rw [htotals, kernelCount_append, kernelCount_emitted, kernelCount_totals, Nat.add_zero,
    length_kernelLines, countP_isKernelLine]

/-- Lines that the scan passes over leave no trace in its remarks. -/
theorem remarksOfLines_insert (before after : List String) {added : List String}
    (h : ∀ line ∈ added, kernelLine? line.toList = none) :
    remarksOfLines (before ++ (added ++ after)) = remarksOfLines (before ++ after) := by
  have hnone : (added.filterMap fun line => kernelLine? line.toList) = [] :=
    List.filterMap_eq_nil_iff.2 h
  simp only [remarksOfLines, List.filterMap_append, hnone, List.nil_append]

/-- The remarks about kernels, without the totals and whatever else there is. -/
def kernelRemarks (remarks : List Remark) : List Remark := remarks.filter fun r => r.kind = .kernel

/-- The kernel that the last heading of the lines names, empty if they have none. -/
def locatedKernel (lines : List String) : String :=
  ((lastHeading? (lines.filterMap fun line => kernelLine? line.toList)).map
    Heading.kernelName).getD ""

theorem length_kernelRemarks (remarks : List Remark) :
    (kernelRemarks remarks).length = kernelCount remarks :=
  List.countP_eq_length_filter.symm

theorem kernelRemarks_append (xs ys : List Remark) :
    kernelRemarks (xs ++ ys) = kernelRemarks xs ++ kernelRemarks ys := by
  simp only [kernelRemarks, List.filter_append]

theorem kernelRemarks_emitted (s : Scan) (lines : List (List Char)) :
    kernelRemarks (s.emitted lines) = s.emitted lines := by
  rw [kernelRemarks, List.filter_eq_self]
  intro r hr
  exact decide_eq_true (Scan.saysMessage_of_mem_emitted hr).kind

theorem function_remarkOf_feedAll (xs : List (List Char)) (body : List Char) :
    ((Scan.start.feedAll xs).remarkOf body).function =
      ((lastHeading? (xs ++ [body])).map Heading.kernelName).getD "" := by
  have hstart : Scan.start.function = none := rfl
  have hfeed : (Scan.start.feedAll xs).feed body = Scan.start.feedAll (xs ++ [body]) := by
    rw [Scan.feedAll_append]
    rfl
  rw [Scan.function_remarkOf, hfeed, Scan.function_feedAll, hstart, Option.or_none]

/-- The remark of a line about a kernel stands behind those of the lines before it and belongs to
the kernel that was located last. -/
theorem exists_remark_of_kernelLine (before after : List String) {line : String}
    (h : KernelLine line.toList) :
    ∃ earlier k later,
      kernelRemarks (remarksOfLines (before ++ line :: after)) = earlier ++ k :: later ∧
        earlier.length = (before.filter fun line => KernelLine line.toList).length ∧
        k.function = locatedKernel (before ++ [line]) := by
  obtain ⟨body, hline, htags⟩ := h
  have hbody : kernelLine? line.toList = some body := by rw [hline, kernelLine?_of_tags htags]
  obtain ⟨totals, htotals⟩ := remarksOfLines_eq (before ++ line :: after)
  rw [htotals, kernelRemarks_append, kernelRemarks_emitted, List.filterMap_append,
    List.filterMap_cons, hbody, Scan.emitted_append, Scan.emitted]
  refine ⟨_, _, _, (List.append_assoc _ _ _).trans rfl, ?_, ?_⟩
  · rw [Scan.length_emitted, length_kernelLines, countP_isKernelLine]
  · rw [function_remarkOf_feedAll, locatedKernel, List.filterMap_append, List.filterMap_cons,
      hbody, List.filterMap_nil]

end BuildRemarks.Kernel
