import BuildRemarks.Kernel.Merged
import BuildRemarks.Proofs.Collect.PrintedLines
import BuildRemarks.Proofs.Record.Isolation

/-!
# Where descriptors come from

Remarks of all grammars are collected in one list, and some that are no lines of the kernel scan
are about kernels all the same: records of the kernel pass, and the totals of the scan. But only the
lines of the scan have descriptors, so that whatever is collected besides them says nothing when the
descriptors are merged.
-/

namespace BuildRemarks.Collect

open Kernel (contribution? mergeByFunction)

/-- The remark never makes a difference to the merged descriptors, among whatever remarks. -/
def Silent (r : Remark) : Prop :=
  ∀ before after, mergeByFunction (before ++ r :: after) = mergeByFunction (before ++ after)

/-! ### Remarks without a descriptor -/

theorem contribution?_of_kernel_eq_none {r : Remark} (h : r.kernel = none) :
    contribution? r = none := by
  rw [contribution?, h]

theorem silent_of_kernel_eq_none {r : Remark} (h : r.kernel = none) : Silent r := by
  intro before after
  have hnone := contribution?_of_kernel_eq_none h
  simp only [mergeByFunction, List.filterMap_append, List.filterMap_cons_none hnone]

theorem filterMap_contribution?_eq_nil {rs : List Remark} (h : ∀ r ∈ rs, r.kernel = none) :
    rs.filterMap contribution? = [] :=
  List.filterMap_eq_nil_iff.2 fun r hr => contribution?_of_kernel_eq_none (h r hr)

/-- Remarks without a descriptor may stand before and behind those that have one. -/
theorem mergeByFunction_between {before after : List Remark} (rs : List Remark)
    (hbefore : ∀ r ∈ before, r.kernel = none) (hafter : ∀ r ∈ after, r.kernel = none) :
    mergeByFunction (before ++ rs ++ after) = mergeByFunction rs := by
  simp only [mergeByFunction, List.filterMap_append, filterMap_contribution?_eq_nil hbefore,
    filterMap_contribution?_eq_nil hafter, List.nil_append, List.append_nil]

/-! ### The grammars -/

theorem kernel_of_form {form : Printed.Form} {message : List Char} {r : Remark}
    (h : form.remark? message = some r) : r.kernel = none := by
  cases form with
  | inlining =>
    obtain ⟨s, -, rfl⟩ := Option.map_eq_some_iff.1 h
    rfl
  | missed =>
    obtain ⟨sides, -, rfl⟩ := Option.map_eq_some_iff.1 h
    rfl
  | analysis =>
    obtain ⟨sides, -, rfl⟩ := Option.map_eq_some_iff.1 h
    rfl
  | sizeInfo =>
    cases h
    rfl

theorem kernel_of_parseLine? {cs : List Char} {r : Remark} (h : Printed.parseLine? cs = some r) :
    r.kernel = none := by
  simp only [Printed.parseLine?, bind, Option.bind_eq_some_iff] at h
  obtain ⟨line, -, form, -, made, hmade, h⟩ := h
  have hkernel := kernel_of_form hmade
  -- neither the place nor the tag is a descriptor
  split at h
  · cases h
    exact hkernel
  · cases h
    exact hkernel

theorem kernel_of_mem_printed {stream : Text.Bytes} {rs : List Remark}
    (h : Printed.parse stream = .ok rs) : ∀ r ∈ rs, r.kernel = none := by
  intro r hr
  rw [Printed.parse] at h
  split at h
  · exact absurd h (by simp)
  · cases h
    obtain ⟨line, -, hline⟩ := List.mem_filterMap.1 hr
    exact kernel_of_parseLine? hline

theorem kernel_of_mem_records {stream : Text.Bytes} {rs : List Remark}
    (h : Record.parse stream = .ok rs) : ∀ r ∈ rs, r.kernel = none := by
  intro r hr
  rw [Record.parse] at h
  split at h
  · exact absurd h (by simp)
  · split at h
    · exact absurd h (by simp)
    · cases h
      exact (Record.classified_of_mem_ofDocuments hr).undescribed

/-- The remarks of a scan are those of its lines, which are about kernels, and then totals, which
are metrics without a descriptor. -/
theorem kernel_of_mem_scan {stream : Text.Bytes} {rs : List Remark}
    (h : Kernel.parse stream = .ok rs) : ∀ r ∈ rs, r.kind ≠ .kernel → r.kernel = none := by
  intro r hr hkind
  rw [Kernel.parse] at h
  split at h
  · exact absurd h (by simp)
  · cases h
    rw [Kernel.remarksOfLines, Kernel.Scan.finish, List.mem_append] at hr
    rcases hr with hr | hr
    · rw [Kernel.Scan.remarks_feedAll] at hr
      exact absurd (Kernel.Scan.saysMessage_of_mem_emitted hr).kind hkind
    · obtain ⟨e, -, rfl⟩ := List.mem_map.1 hr
      rfl

/-! ### Everything that is collected -/

/-- The merged descriptors of what a run collects are those of its scan. -/
structure DescribedByScan (config : Config) (run : Run) (all : List Remark) : Prop where
  active : ∀ stream, Reads config run .kernel stream →
    ∃ scan, Kernel.parse stream = .ok scan ∧ mergeByFunction all = mergeByFunction scan
  idle : (∀ stream, ¬ Reads config run .kernel stream) → mergeByFunction all = .empty
  /-- Printed remarks, records and the totals of the scan have no descriptor and never make a
  difference. -/
  others : ∃ remarks : Grammar → List Remark,
    all = remarks .printed ++ remarks .kernel ++ remarks .records ∧
    (∀ g stream, Reads config run g stream → g.parse stream = .ok (remarks g)) ∧
    (∀ g, (∀ stream, ¬ Reads config run g stream) → remarks g = []) ∧
    ∀ g, ∀ r ∈ remarks g, g ≠ .kernel ∨ r.kind ≠ .kernel →
      r.kernel = none ∧ Silent r

variable {config : Config} {run : Run}

/-- What a grammar gives is what it reads, or nothing. -/
theorem eq_nil_or_parse {remarks : Grammar → List Remark}
    (hactive : ∀ g stream, Reads config run g stream → g.parse stream = .ok (remarks g))
    (hidle : ∀ g, (∀ stream, ¬ Reads config run g stream) → remarks g = []) (g : Grammar) :
    remarks g = [] ∨ ∃ stream, g.parse stream = .ok (remarks g) := by
  by_cases h : ∃ stream, Reads config run g stream
  · obtain ⟨stream, hreads⟩ := h
    exact Or.inr ⟨stream, hactive g stream hreads⟩
  · exact Or.inl (hidle g fun stream hreads => h ⟨stream, hreads⟩)

theorem kernel_of_mem_parse {g : Grammar} {stream : Text.Bytes} {rs : List Remark}
    (h : g.parse stream = .ok rs) :
    ∀ r ∈ rs, g ≠ .kernel ∨ r.kind ≠ .kernel → r.kernel = none := by
  intro r hr hother
  cases g with
  | printed => exact kernel_of_mem_printed h r hr
  | kernel => exact kernel_of_mem_scan h r hr (hother.resolve_left fun hne => hne rfl)
  | records => exact kernel_of_mem_records h r hr

theorem describedByScan_of_collect {all : List Remark} (h : collect config run = .ok all) :
    DescribedByScan config run all := by
  have houtcome := outcome_collect config run
  rw [h] at houtcome
  cases houtcome with
  | joined remarks hactive hidle =>
    have hothers : ∀ g, ∀ r ∈ remarks g, g ≠ .kernel ∨ r.kind ≠ .kernel →
        r.kernel = none := by
      intro g
      rcases eq_nil_or_parse hactive hidle g with hnil | ⟨stream, hparse⟩
      · rw [hnil]
        exact fun r hr => absurd hr List.not_mem_nil
      · exact kernel_of_mem_parse hparse
    have hprinted : ∀ r ∈ remarks .printed, r.kernel = none :=
      fun r hr => hothers .printed r hr (Or.inl (by decide))
    have hrecords : ∀ r ∈ remarks .records, r.kernel = none :=
      fun r hr => hothers .records r hr (Or.inl (by decide))
    have hmerge := mergeByFunction_between (remarks .kernel) hprinted hrecords
    constructor
    case active =>
      intro stream hreads
      exact ⟨remarks .kernel, hactive .kernel stream hreads, hmerge⟩
    case idle =>
      intro hno
      rw [hmerge, hidle .kernel hno]
      rfl
    case others =>
      refine ⟨remarks, rfl, hactive, hidle, fun g r hr hother => ?_⟩
      have hnone := hothers g r hr hother
      exact ⟨hnone, silent_of_kernel_eq_none hnone⟩

def kernelRecord : String := "--- !Analysis {Pass: kernel-info, Name: A, Function: kern}\n"

/-- A run in which one kernel is in the output and in the records. -/
def recordedRun : Run :=
  { printing [kernelHeading] with records := some (Text.encode kernelRecord.toList) }

theorem describedByScan_recordedRun :
    ∃ all, collect {} recordedRun = .ok all ∧
      all.map (fun r => (r.kind, r.function, r.kernel.isSome)) =
        [(.kernel, "kern", true), (.metric, "", false), (.kernel, "kern", false)] ∧
      DescribedByScan {} recordedRun all := by
  have hlines : Text.lines? recordedRun.output = some [kernelHeading] :=
    Text.lines?_ofLines (by decide)
  have hdecode : Text.decode? (Text.encode kernelRecord.toList) = some kernelRecord := by
    rw [Text.decode?_encode, String.ofList_toList]
  have hload : (Yaml.load? kernelRecord).map (fun documents =>
      (Record.ofDocuments documents).map fun r => (r.kind, r.function, r.kernel.isSome)) =
      some [(.kernel, "kern", false)] := by
    decide +kernel
  obtain ⟨documents, hdocuments, hrecords⟩ := Option.map_eq_some_iff.1 hload
  have hread : readBy .records (source? {} recordedRun .records) =
      .ok (Record.ofDocuments documents) :=
    Record.parse_of_framed hdecode (Record.load?_eq_some_iff.1 hdocuments)
  have hcollect := (collect_eq_ok_iff recordedRun rfl hlines).2 ⟨_, hread, rfl⟩
  refine ⟨_, hcollect, ?_, describedByScan_of_collect hcollect⟩
  rw [List.map_append, hrecords]
  decide +kernel

end BuildRemarks.Collect
