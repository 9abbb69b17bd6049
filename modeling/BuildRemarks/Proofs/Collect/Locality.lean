import BuildRemarks.Proofs.Collect.Readable
import BuildRemarks.Proofs.Kernel.PassTags

/-!
# Lines are read on their own

A line grammar makes its remarks of the lines of a stream that are meant for it. Whole lines of
another kind may be put between two lines or taken away from there: noise matters to neither
grammar, and the remarks of other passes do not matter to the scan of the kernels, which carries a
function and totals from line to line. The printed remarks of a line depend on nothing but the line.
-/

namespace BuildRemarks.Collect

open Kernel (KernelLine OtherPassLine kernelCount remarkMark remarksOfLines)
open Text (Bytes Ended lines?)

/-- The remarks of two pieces, or the failure of the first of them that fails. -/
def joined (front back : Except Failure (List Remark)) : Except Failure (List Remark) := do
  let xs ← front
  let ys ← back
  pure (xs ++ ys)

/-! ### Lines between lines -/

variable {remarks : List String → List Remark} {before added : Bytes}

theorem byLines_append (hbefore : Ended before) (after : Bytes)
    (h : ∀ xs ys, remarks (xs ++ ys) = remarks xs ++ remarks ys) :
    byLines remarks (before ++ after) =
      joined (byLines remarks before) (byLines remarks after) := by
  rw [byLines, Text.lines?_append_of_ended hbefore, byLines, byLines]
  cases lines? before with
  | none => rfl
  | some xs =>
    cases lines? after with
    | none => rfl
    | some ys => exact congrArg Except.ok (h xs ys)

/-- What makes no difference between lines makes none between the pieces of a stream. -/
theorem byLines_insert (hbefore : Ended before) (hadded : Ended added) (after : Bytes)
    {lines : List String} (hlines : lines? added = some lines)
    (h : ∀ xs ys, remarks (xs ++ (lines ++ ys)) = remarks (xs ++ ys)) :
    byLines remarks (before ++ (added ++ after)) = byLines remarks (before ++ after) := by
  rw [byLines, byLines, Text.lines?_append_of_ended hbefore,
    Text.lines?_append_of_ended hbefore, Text.lines?_append_of_ended hadded, hlines]
  cases lines? before with
  | none => rfl
  | some xs =>
    cases lines? after with
    | none => rfl
    | some ys => exact congrArg Except.ok (h xs ys)

theorem kernel_parse_insert (hbefore : Ended before) (hadded : Ended added) (after : Bytes)
    {lines : List String} (hlines : lines? added = some lines)
    (h : ∀ line ∈ lines, Kernel.kernelLine? line.toList = none) :
    Kernel.parse (before ++ (added ++ after)) = Kernel.parse (before ++ after) := by
  rw [kernel_parse_eq, kernel_parse_eq]
  exact byLines_insert hbefore hadded after hlines fun xs ys =>
    Kernel.remarksOfLines_insert xs ys h

theorem printed_parse_insert (hbefore : Ended before) (hadded : Ended added) (after : Bytes)
    {lines : List String} (hlines : lines? added = some lines)
    (h : ∀ line ∈ lines, Printed.parseLine? line.toList = none) :
    Printed.parse (before ++ (added ++ after)) = Printed.parse (before ++ after) := by
  rw [printed_parse_eq, printed_parse_eq]
  refine byLines_insert hbefore hadded after hlines fun xs ys => ?_
  have hnone : (lines.filterMap fun line => Printed.parseLine? line.toList) = [] :=
    List.filterMap_eq_nil_iff.2 h
  simp only [List.filterMap_append, hnone, List.nil_append]

theorem parseLine?_of_unmarked {line : List Char} (h : ¬ remarkMark.toList <+: line) :
    Printed.parseLine? line = none := by
  have hmark : Text.after? Printed.lineMark line = none := Text.after?_eq_none h
  rw [Printed.parseLine?, Printed.Line.read?, hmark]
  rfl

theorem marked_of_parseLine? {line : List Char} {r : Remark}
    (h : Printed.parseLine? line = some r) :
    remarkMark.toList <+: line := by
  refine Classical.byContradiction fun hnot => ?_
  rw [parseLine?_of_unmarked hnot] at h
  exact absurd h (by simp)

/-! ### Streams -/

/-- Between the pieces of a stream other lines may be put in or taken out. The printed remarks of
the pieces are joined, each line giving one at most, and a line that gives none matters to no
other. The scan of the kernels has a remark for every line about a kernel; lines of other passes
change none of them, nor the totals behind them. -/
theorem local_of_ended {before : Bytes} (hbefore : Ended before) (after : Bytes) :
    (∀ added lines, Ended added → lines? added = some lines →
      ((∀ line ∈ lines, ¬ remarkMark.toList <+: line.toList) →
        Printed.parse (before ++ (added ++ after)) = Printed.parse (before ++ after) ∧
        Kernel.parse (before ++ (added ++ after)) = Kernel.parse (before ++ after)) ∧
      ((∀ line ∈ lines, OtherPassLine line.toList) →
        Kernel.parse (before ++ (added ++ after)) = Kernel.parse (before ++ after)) ∧
      ((∀ line ∈ lines, Printed.parseLine? line.toList = none) →
        Printed.parse (before ++ (added ++ after)) = Printed.parse (before ++ after))) ∧
    (∀ lines, lines? (before ++ after) = some lines →
      ∃ remarks, Kernel.parse (before ++ after) = .ok remarks ∧
        kernelCount remarks = (lines.filter fun line => KernelLine line.toList).length) ∧
    Printed.parse (before ++ after) = joined (Printed.parse before) (Printed.parse after) ∧
    ∀ lines, lines? (before ++ after) = some lines →
      Printed.parse (before ++ after) =
        .ok (lines.filterMap fun line => Printed.parseLine? line.toList) := by
  refine ⟨fun added lines hadded hlines => ⟨fun hnoise => ⟨?_, ?_⟩, fun hother => ?_,
    fun hnone => ?_⟩, fun lines hlines => ?_, ?_, fun lines hlines => ?_⟩
  · exact printed_parse_insert hbefore hadded after hlines fun line hline =>
      parseLine?_of_unmarked (hnoise line hline)
  · exact kernel_parse_insert hbefore hadded after hlines fun line hline =>
      Kernel.kernelLine?_of_unmarked (hnoise line hline)
  · exact kernel_parse_insert hbefore hadded after hlines fun line hline =>
      (hother line hline).kernelLine?_eq_none
  · exact printed_parse_insert hbefore hadded after hlines hnone
  · exact ⟨remarksOfLines lines, byLines_of_lines? hlines,
      Kernel.kernelCount_remarksOfLines lines⟩
  · exact byLines_append hbefore after fun _ _ => List.filterMap_append
  · exact byLines_of_lines? hlines

def kernelHeading : String := "remark: k.c:1:0: in artificial function 'kern', AllocasCount = 3"

/-- Between a line that locates a kernel and a last one that no line feed ends stand noise, a
remark of another pass and a remark that is none. -/
theorem parse_between_lines :
    let before := Text.ofLines [kernelHeading]
    let noise := Text.ofLines ["1 warning generated."]
    let other := Text.ofLines ["remark: a.cpp:3:7: loop not vectorized [-Rpass-missed=vector]"]
    let broken := Text.ofLines ["remark: a.cpp:3: [-Rpass=inline]"]
    let after := Text.encode "remark: B = 2".toList
    Ended before ∧
      Printed.parse (before ++ (noise ++ after)) = Printed.parse (before ++ after) ∧
      Kernel.parse (before ++ (noise ++ after)) = Kernel.parse (before ++ after) ∧
      Kernel.parse (before ++ (other ++ after)) = Kernel.parse (before ++ after) ∧
      Printed.parse (before ++ (broken ++ after)) = Printed.parse (before ++ after) := by
  intro before noise other broken after
  have hbefore : Ended before := Text.ended_ofLines _
  obtain ⟨hinsert, -⟩ := local_of_ended hbefore after
  obtain ⟨hnoise, -⟩ := hinsert noise _ (Text.ended_ofLines _) (Text.lines?_ofLines (by decide))
  obtain ⟨-, hother, -⟩ :=
    hinsert other _ (Text.ended_ofLines _) (Text.lines?_ofLines (by decide))
  obtain ⟨-, -, hbroken⟩ :=
    hinsert broken _ (Text.ended_ofLines _) (Text.lines?_ofLines (by decide))
  obtain ⟨hprinted, hkernel⟩ := hnoise (by decide)
  refine ⟨hbefore, hprinted, hkernel, hother fun line hline => ?_, hbroken (by decide)⟩
  rw [List.mem_singleton.1 hline]
  exact (Kernel.kernelLine_or_otherPassLine (by decide)).resolve_left (by decide)

end BuildRemarks.Collect
