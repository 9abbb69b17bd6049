import BuildRemarks.Proofs.Collect.Composition
import BuildRemarks.Proofs.Collect.Locality

/-!
# Printed remarks in the scan of the kernels

The printed remarks and the scan of the kernels read the same output. The scan knows a remark of
another pass by its tag and by nothing else. So it passes over a printed remark exactly if the line
ends in the tag of another pass. Of any other it makes a second remark, which goes to the kernel
that was located last.
-/

namespace BuildRemarks.Collect

open Kernel (KernelLine OtherPassLine Unclosed kernelRemarks kernelTag locatedKernel remarkMark
  remarksOfLines)
open Printed (parseLine? tagText)
open Text (Bytes lines?)

/-! ### What is collected from lines -/

/-- The printed remarks of the lines, if they are collected. -/
def printedRemarks (config : Config) (lines : List String) : List Remark :=
  if config.text then lines.filterMap fun line => parseLine? line.toList else []

/-- With the kernels switched on, the remarks of lines of text are collected both ways, and behind
them those of the records if they can be read. -/
theorem collect_eq_ok_iff {config : Config} (run : Run)
    (henabled : config.kernelEnabled run.arguments = true) {lines : List String}
    (hlines : lines? run.output = some lines) {all : List Remark} :
    collect config run = .ok all ↔
      ∃ records, readBy .records (source? config run .records) = .ok records ∧
        all = printedRemarks config lines ++ remarksOfLines lines ++ records := by
  have hprinted : readBy .printed (source? config run .printed) =
      .ok (printedRemarks config lines) := by
    rw [source?, printedRemarks]
    split
    · exact (printed_parse_eq run.output).trans (byLines_of_lines? hlines)
    · rfl
  have hkernel : readBy .kernel (source? config run .kernel) = .ok (remarksOfLines lines) := by
    rw [source?, if_pos henabled]
    exact (kernel_parse_eq run.output).trans (byLines_of_lines? hlines)
  rw [collect_eq, hprinted, hkernel]
  cases readBy .records (source? config run .records) with
  | error failure =>
    refine iff_of_false ?_ ?_
    · show Except.error failure ≠ _
      simp
    · simp
  | ok records =>
    show Except.ok (printedRemarks config lines ++ remarksOfLines lines ++ records) = .ok all ↔ _
    simp only [Except.ok.injEq, exists_eq_left', eq_comm]

theorem kind_ne_kernel_of_parseLine? {cs : List Char} {r : Remark} (h : parseLine? cs = some r) :
    r.kind ≠ .kernel := by
  simp only [parseLine?, bind, Option.bind_eq_some_iff] at h
  obtain ⟨l, -, form, -, made, hremark, h⟩ := h
  have hclasses := (Printed.Form.made_of_remark? hremark).classes
  have hmade : made.kind = form.classes.1 := congrArg Prod.fst hclasses
  have hform : form.classes.1 ≠ .kernel := by cases form <;> decide
  -- neither the place nor the tag changes the kind
  split at h
  · cases h
    exact ne_of_eq_of_ne hmade hform
  · cases h
    exact ne_of_eq_of_ne hmade hform

/-- No printed remark is one about a kernel. -/
theorem kernelRemarks_printedRemarks (config : Config) (lines : List String) :
    kernelRemarks (printedRemarks config lines) = [] := by
  rw [kernelRemarks, List.filter_eq_nil_iff]
  intro r hr
  rw [printedRemarks] at hr
  split at hr
  · obtain ⟨line, -, hline⟩ := List.mem_filterMap.1 hr
    rw [decide_eq_true_iff]
    exact kind_ne_kernel_of_parseLine? hline
  · exact absurd hr List.not_mem_nil

/-- The kernel remarks that are collected are those of the scan and of the records. -/
theorem kernelRemarks_collected (config : Config) (lines : List String) (records : List Remark) :
    kernelRemarks (printedRemarks config lines ++ remarksOfLines lines ++ records) =
      kernelRemarks (remarksOfLines lines) ++ kernelRemarks records := by
  rw [Kernel.kernelRemarks_append, Kernel.kernelRemarks_append, kernelRemarks_printedRemarks,
    List.nil_append]

theorem mem_printedRemarks {config : Config} (htext : config.text = true)
    (before after : List String) {line : String} {r : Remark}
    (h : parseLine? line.toList = some r) :
    r ∈ printedRemarks config (before ++ line :: after) := by
  rw [printedRemarks, if_pos htext]
  exact List.mem_filterMap.2 ⟨line, List.mem_append_right before List.mem_cons_self, h⟩

/-! ### Runs that differ in a line -/

/-- The scan has one kernel remark more for a line about a kernel. -/
theorem length_kernelRemarks_insert (before after : List String) {line : String}
    (h : KernelLine line.toList) :
    (kernelRemarks (remarksOfLines (before ++ line :: after))).length =
      (kernelRemarks (remarksOfLines (before ++ after))).length + 1 := by
  simp only [Kernel.length_kernelRemarks, Kernel.kernelCount_remarksOfLines, List.filter_append,
    List.filter_cons, decide_eq_true h, if_true, List.length_append, List.length_cons,
    Nat.add_assoc]

/-- The scan of the lines has the same kernel remarks without a remark exactly if that is one of
another pass. -/
theorem kernelRemarks_insert_iff (before after : List String) {line : String}
    (hmark : remarkMark.toList <+: line.toList) :
    kernelRemarks (remarksOfLines (before ++ line :: after)) =
      kernelRemarks (remarksOfLines (before ++ after)) ↔ OtherPassLine line.toList := by
  constructor
  · intro hsame
    refine (Kernel.kernelLine_or_otherPassLine hmark).resolve_left fun hline => ?_
    have hlength := length_kernelRemarks_insert before after hline
    rw [hsame] at hlength
    exact absurd hlength (Nat.succ_ne_self _).symm
  · intro hline
    have hskip : ∀ other ∈ [line], Kernel.kernelLine? other.toList = none := fun other hmem =>
      List.mem_singleton.1 hmem ▸ hline.kernelLine?_eq_none
    exact congrArg kernelRemarks (Kernel.remarksOfLines_insert before after hskip)

/-- A printed remark whose tag does not name the kernel pass leaves the collected kernel remarks
alone exactly if its line is one of another pass to the scan, as it is with a tag unless a bracket
before the tag is left open, and never if it does not end in a bracket. Otherwise it is collected
twice, and the second remark belongs to the kernel that was located last. -/
theorem kernelRemarks_of_printedLine {config : Config} {run : Run}
    (henabled : config.kernelEnabled run.arguments = true) {before after : List String}
    {line : String} (hlines : lines? run.output = some (before ++ line :: after)) {r : Remark}
    (hr : parseLine? line.toList = some r)
    (hother : ∀ tag, r.metadata.get? "tag" = some (.string tag) → ¬ kernelTag <:+: tag.toList)
    {without : Bytes} (hwithout : lines? without = some (before ++ after))
    {all : List Remark} (hall : collect config run = .ok all) :
    ∃ rest, collect config { run with output := without } = .ok rest ∧
      (kernelRemarks all = kernelRemarks rest ↔ OtherPassLine line.toList) ∧
      (∀ tag, r.metadata.get? "tag" = some (.string tag) →
        ∃ front, line.toList = remarkMark.toList ++ (front ++ tagText tag.toList) ∧
          (¬ Unclosed front → OtherPassLine line.toList)) ∧
      (line.toList.getLast? ≠ some ']' → ¬ OtherPassLine line.toList) ∧
      (¬ OtherPassLine line.toList →
        (config.text = true → r ∈ all) ∧
        (kernelRemarks all).length = (kernelRemarks rest).length + 1 ∧
        ∃ earlier k later, kernelRemarks all = earlier ++ k :: later ∧
          earlier.length = (before.filter fun line => KernelLine line.toList).length ∧
          k.function = locatedKernel (before ++ [line])) := by
  obtain ⟨records, hrecords, rfl⟩ := (collect_eq_ok_iff run henabled hlines).1 hall
  -- the records are the same in both runs
  have hrest : collect config { run with output := without } =
      .ok (printedRemarks config (before ++ after) ++ remarksOfLines (before ++ after) ++
        records) :=
    (collect_eq_ok_iff { run with output := without } henabled hwithout).2
      ⟨records, hrecords, rfl⟩
  have hmark : remarkMark.toList <+: line.toList := marked_of_parseLine? hr
  refine ⟨_, hrest, ?_, fun tag htag => ?_, fun hlast hline => hlast hline.getLast?,
    fun hnot => ⟨fun htext => ?_, ?_⟩⟩
  · rw [kernelRemarks_collected, kernelRemarks_collected, List.append_cancel_right_eq]
    exact kernelRemarks_insert_iff before after hmark
  · obtain ⟨hne, hclose, front, hline⟩ := Kernel.exists_front_of_parseLine? hr htag
    refine ⟨front, hline, fun hfront => ?_⟩
    rw [hline]
    exact Kernel.otherPassLine_of_passTagOf (Kernel.passTagOf_tagText hfront hne hclose)
      (hother tag htag)
  · rw [List.append_assoc]
    exact List.mem_append_left _ (mem_printedRemarks htext before after hr)
  · have hline : KernelLine line.toList :=
      (Kernel.kernelLine_or_otherPassLine hmark).resolve_right hnot
    obtain ⟨earlier, k, later, hremarks, hlength, hfunction⟩ :=
      Kernel.exists_remark_of_kernelLine before after hline
    rw [kernelRemarks_collected, kernelRemarks_collected]
    refine ⟨?_, earlier, k, later ++ kernelRemarks records, ?_, hlength, hfunction⟩
    · rw [List.length_append, List.length_append, length_kernelRemarks_insert before after hline,
        Nat.add_right_comm]
    · rw [hremarks, List.append_assoc, List.cons_append]

/-! ### With and without a tag -/

def inliningLine : String :=
  "remark: a.cpp:3:7: 'f' inlined into 'main' with (cost=5): hot at callsite a.cpp:9:3;"

def taggedLine : String := inliningLine ++ " [-Rpass=inline]"

/-- A run in which the compiler was asked for kernel remarks and printed these lines. -/
def printing (lines : List String) : Run where
  arguments := ["-O2", "-Rpass=kernel-info"]
  output := Text.ofLines lines
  records := none

theorem collect_printing {lines : List String}
    (h : ∀ line ∈ lines, '\n' ∉ line.toList ∧ '\r' ∉ line.toList) :
    collect {} (printing lines) = .ok (printedRemarks {} lines ++ remarksOfLines lines ++ []) :=
  (collect_eq_ok_iff (printing lines) rfl (Text.lines?_ofLines h)).2 ⟨[], rfl, rfl⟩

theorem kernelRemarks_taggedLine :
    ∃ r all rest, parseLine? taggedLine.toList = some r ∧ r.pass = .inlining ∧
      collect {} (printing [kernelHeading, taggedLine]) = .ok all ∧
      collect {} (printing [kernelHeading]) = .ok rest ∧
      kernelRemarks all = kernelRemarks rest := by
  have hread : (parseLine? taggedLine.toList).map (fun r => (r.pass, r.metadata.get? "tag")) =
      some (.inlining, some (.string "-Rpass=inline")) := by rfl
  obtain ⟨r, hr, htold⟩ := Option.map_eq_some_iff.1 hread
  obtain ⟨hpass, htag⟩ := Prod.mk.inj htold
  have hother : ∀ tag, r.metadata.get? "tag" = some (.string tag) →
      ¬ kernelTag <:+: tag.toList := by
    intro tag hget
    obtain rfl : tag = "-Rpass=inline" := by simpa [htag, eq_comm] using hget
    exact mt (Text.occursIn_iff _ _).2 (by decide)
  have hlines : lines? (printing [kernelHeading, taggedLine]).output =
      some ([kernelHeading] ++ taggedLine :: []) := Text.lines?_ofLines (by decide)
  have hwithout : lines? (printing [kernelHeading]).output = some ([kernelHeading] ++ []) :=
    Text.lines?_ofLines (by decide)
  obtain ⟨rest, hrest, hsame, -⟩ :=
    kernelRemarks_of_printedLine rfl hlines hr hother hwithout (collect_printing (by decide))
  have hskip : OtherPassLine taggedLine.toList :=
    (Kernel.kernelLine_or_otherPassLine (marked_of_parseLine? hr)).resolve_left (by decide)
  exact ⟨r, _, rest, hr, hpass, collect_printing (by decide), hrest, hsame.2 hskip⟩

/-- An inlining that is printed without a tag is collected twice. -/
theorem not_skipped_inliningLine :
    ¬ ∀ config run before line after r without all rest,
      config.kernelEnabled run.arguments = true →
      lines? run.output = some (before ++ line :: after) →
      parseLine? line.toList = some r → r.pass = .inlining →
      (∀ tag, r.metadata.get? "tag" = some (.string tag) → ¬ kernelTag <:+: tag.toList) →
      lines? without = some (before ++ after) →
      collect config run = .ok all → collect config { run with output := without } = .ok rest →
      kernelRemarks all = kernelRemarks rest := by
  intro hall
  have hread : (parseLine? inliningLine.toList).map (fun r => (r.pass, r.metadata.get? "tag")) =
      some (.inlining, none) := by rfl
  obtain ⟨r, hr, htold⟩ := Option.map_eq_some_iff.1 hread
  obtain ⟨hpass, htag⟩ := Prod.mk.inj htold
  have hsame := hall {} (printing [kernelHeading, inliningLine]) [kernelHeading] inliningLine [] r
    (printing [kernelHeading]).output _ _ rfl (Text.lines?_ofLines (by decide)) hr hpass
    (by simp [htag]) (Text.lines?_ofLines (by decide)) (collect_printing (by decide))
    (collect_printing (by decide))
  have hlength := congrArg List.length hsame
  simp only [kernelRemarks_collected, List.length_append, Kernel.length_kernelRemarks,
    Kernel.kernelCount_remarksOfLines] at hlength
  exact absurd hlength (by decide)

end BuildRemarks.Collect
