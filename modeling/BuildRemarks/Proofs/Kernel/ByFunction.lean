import BuildRemarks.Kernel.Merged
import BuildRemarks.Proofs.Kernel.Account
import BuildRemarks.Proofs.Kernel.ScanRun
import BuildRemarks.Proofs.Text.Encoding

/-!
# Kernels of a stream

The merged descriptor of a function depends on the remarks of that function alone: it is their
descriptors folded in turn. For the remarks of a stream these are the descriptors of the
sentences that the remarks say, so that the merged one is their account.
-/

namespace BuildRemarks.Kernel

/-- The remarks that describe the kernel `f`, in their order. -/
def describing (f : String) (remarks : List Remark) : List Remark :=
  remarks.filter fun r => r.kind = .kernel ∧ r.function = f ∧ r.kernel.isSome

/-- What the messages of remarks say. -/
def sentencesOf (remarks : List Remark) : List Sentence :=
  remarks.filterMap fun r => Sentence.ofText? r.message.toList

/-- Descriptors folded in turn, if there is one to begin with or in the list. -/
def foldInto (d : Option Descriptor) (ds : List Descriptor) : Option Descriptor :=
  ds.foldl (fun d later => some ((d.getD .blank).merge later)) d

theorem foldInto_some (d : Descriptor) (ds : List Descriptor) :
    foldInto (some d) ds = some (ds.foldl Descriptor.merge d) := by
  induction ds generalizing d with
  | nil => rfl
  | cons later ds ih => exact ih (d.merge later)

theorem foldInto_none (ds : List Descriptor) :
    foldInto none ds = if ds = [] then none else some (ds.foldl Descriptor.merge .blank) := by
  cases ds with
  | nil => rfl
  | cons later ds =>
    rw [if_neg (List.cons_ne_nil later ds)]
    exact foldInto_some (Descriptor.blank.merge later) ds

/-! ### One function of many -/

theorem get?_addContribution (m : NameMap Descriptor) (c : String × Descriptor) (f : String) :
    (addContribution m c).get? f = foldInto (m.get? f) (if c.1 = f then [c.2] else []) := by
  rw [addContribution, NameMap.get?_alter]
  by_cases hf : c.1 = f
  · rw [if_pos hf, if_pos hf.symm, hf]
    rfl
  · rw [if_neg hf, if_neg fun e => hf e.symm]
    rfl

theorem contribution?_of_describing {r : Remark} {d : Descriptor} {f : String} (hf : f ≠ "")
    (hkind : r.kind = .kernel) (hfunction : r.function = f) (hkernel : r.kernel = some d) :
    contribution? r = some (f, d) := by
  simp only [contribution?, hkernel]
  rw [if_pos ⟨hkind, hfunction ▸ hf⟩, hfunction]

theorem contribution?_of_not_describing {r : Remark} {c : String × Descriptor} {f : String}
    (h : ¬ (r.kind = .kernel ∧ r.function = f ∧ r.kernel.isSome))
    (hc : contribution? r = some c) : c.1 ≠ f := by
  rw [contribution?] at hc
  split at hc
  · rename_i d hd
    split at hc
    · rename_i hr
      cases hc
      exact fun e => h ⟨hr.1, e, by rw [hd]; rfl⟩
    · exact absurd hc (by simp)
  · exact absurd hc (by simp)

/-- The fold over all remarks is, at `f`, the fold over those that describe `f`. -/
theorem get?_foldl_contributions {f : String} (hf : f ≠ "") (m : NameMap Descriptor)
    (remarks : List Remark) :
    ((remarks.filterMap contribution?).foldl addContribution m).get? f =
      foldInto (m.get? f) ((describing f remarks).filterMap (·.kernel)) := by
  induction remarks generalizing m with
  | nil => rfl
  | cons r rs ih =>
    rw [describing, List.filter_cons]
    by_cases h : r.kind = .kernel ∧ r.function = f ∧ r.kernel.isSome
    · obtain ⟨hkind, hfunction, hsome⟩ := h
      obtain ⟨d, hd⟩ := Option.isSome_iff_exists.1 hsome
      have hc := contribution?_of_describing hf hkind hfunction hd
      rw [if_pos (decide_eq_true ⟨hkind, hfunction, hsome⟩), List.filterMap_cons_some hc,
        List.filterMap_cons_some hd, List.foldl_cons, ih, get?_addContribution, if_pos rfl]
      rfl
    · rw [if_neg (by simpa using h)]
      cases hc : contribution? r with
      | none =>
        rw [List.filterMap_cons_none hc]
        exact ih m
      | some c =>
        -- the remark may still describe another kernel
        have hne := contribution?_of_not_describing h hc
        rw [List.filterMap_cons_some hc, List.foldl_cons, ih, get?_addContribution,
          if_neg hne]
        rfl

theorem get?_mergeByFunction {f : String} (hf : f ≠ "") (remarks : List Remark) :
    (mergeByFunction remarks).get? f =
      foldInto none ((describing f remarks).filterMap (·.kernel)) :=
  get?_foldl_contributions hf .empty remarks

/-! ### The remarks of a stream -/

/-- Every kernel remark of the list describes what its message says. -/
def SayTheirMessages (remarks : List Remark) : Prop :=
  ∀ r ∈ remarks, r.kind = .kernel → SaysMessage r

theorem sayTheirMessages_remarksOfLines (lines : List String) :
    SayTheirMessages (remarksOfLines lines) := by
  intro r hr hkind
  rw [remarksOfLines, Scan.finish, List.mem_append] at hr
  rcases hr with hr | hr
  · rw [Scan.remarks_feedAll] at hr
    exact Scan.saysMessage_of_mem_emitted hr
  · obtain ⟨e, -, rfl⟩ := List.mem_map.1 hr
    exact absurd hkind (by simp [Totals.remark, Remark.plain])

theorem kernel_map_describing {f : String} {remarks : List Remark}
    (h : SayTheirMessages remarks) :
    (describing f remarks).map (·.kernel) =
      (sentencesOf (describing f remarks)).map fun s => some s.describe := by
  have hall : ∀ r ∈ describing f remarks, ∃ s, Sentence.ofText? r.message.toList = some s ∧
      r.kernel = some s.describe := by
    intro r hr
    obtain ⟨hmem, hr⟩ := List.mem_filter.1 hr
    obtain ⟨hkind, -, hsome⟩ := of_decide_eq_true hr
    have hkernel := (h r hmem hkind).kernel
    cases hs : Sentence.ofText? r.message.toList with
    | none =>
      rw [hkernel, hs] at hsome
      exact absurd hsome (by simp)
    | some s => exact ⟨s, rfl, by rw [hkernel, hs]; rfl⟩
  revert hall
  -- the list is no longer a filter in the induction, only `hall` is left of it
  generalize describing f remarks = rs
  intro hall
  induction rs with
  | nil => rfl
  | cons r rs ih =>
    obtain ⟨s, hs, hkernel⟩ := hall r List.mem_cons_self
    have hsentences : sentencesOf (r :: rs) = s :: sentencesOf rs :=
      List.filterMap_cons_some hs
    rw [hsentences, List.map_cons, List.map_cons, hkernel,
      ih fun q hq => hall q (List.mem_cons_of_mem r hq)]

theorem get?_mergeByFunction_eq_gather {f : String} (hf : f ≠ "") {remarks : List Remark}
    (h : SayTheirMessages remarks) :
    (mergeByFunction remarks).get? f =
      if describing f remarks = [] then none
      else some (gather (sentencesOf (describing f remarks))) := by
  have hmap := kernel_map_describing (f := f) h
  have hdescriptors : (describing f remarks).filterMap (·.kernel) =
      (sentencesOf (describing f remarks)).map Sentence.describe := by
    have hid := congrArg (List.filterMap id) hmap
    rw [List.filterMap_map, List.filterMap_map] at hid
    rw [← List.filterMap_eq_map]
    exact hid
  have hnil : (sentencesOf (describing f remarks)).map Sentence.describe = [] ↔
      describing f remarks = [] := by
    have hlength := congrArg List.length hmap
    rw [List.length_map, List.length_map] at hlength
    rw [List.map_eq_nil_iff, ← List.length_eq_zero_iff, ← List.length_eq_zero_iff, hlength]
  rw [get?_mergeByFunction hf, hdescriptors, foldInto_none, List.foldl_map]
  simp only [hnil]
  rfl

theorem parse_of_decode? {stream : Text.Bytes} {text : String}
    (h : Text.decode? stream = some text) :
    parse stream = .ok (remarksOfLines ((Text.textLines text.toList).map String.ofList)) := by
  rw [parse, Text.decode?_eq_some_iff.1 h, Text.lines?_encode]

/-- Merging the remarks gives `f` an entry exactly if one of them describes it, and the entry
is the account of what those say. -/
structure MergedFor (f : String) (remarks : List Remark) : Prop where
  told : (describing f remarks).map (·.kernel) =
    (sentencesOf (describing f remarks)).map fun s => some s.describe
  contains_iff : (mergeByFunction remarks).contains f = true ↔ describing f remarks ≠ []
  account : ∀ d, (mergeByFunction remarks).get? f = some d →
    Account (sentencesOf (describing f remarks)) d

theorem mergedFor_of_get? {f : String} {remarks : List Remark}
    (h : SayTheirMessages remarks)
    (hget : (mergeByFunction remarks).get? f =
      if describing f remarks = [] then none
      else some (gather (sentencesOf (describing f remarks)))) : MergedFor f remarks := by
  refine ⟨kernel_map_describing h, ?_, fun d hd => ?_⟩
  · rw [NameMap.contains, hget]
    split
    · rename_i hnil
      simp only [hnil, Option.isSome_none, Bool.false_eq_true, ne_eq, not_true_eq_false]
    · rename_i hne
      simp only [Option.isSome_some, ne_eq, hne, not_false_eq_true]
  · rw [hget] at hd
    split at hd
    · exact absurd hd (by simp)
    · cases hd
      exact account_gather _

theorem mergedFor_of_stream {stream : Text.Bytes} {f : String}
    (hs : (Text.decode? stream).isSome = true) (hf : f ≠ "") :
    ∃ remarks, parse stream = .ok remarks ∧ MergedFor f remarks := by
  obtain ⟨text, htext⟩ := Option.isSome_iff_exists.1 hs
  have hmessages := sayTheirMessages_remarksOfLines
    ((Text.textLines text.toList).map String.ofList)
  have hget := get?_mergeByFunction_eq_gather hf hmessages
  exact ⟨_, parse_of_decode? htext, mergedFor_of_get? hmessages hget⟩

def twoLines : List Char :=
  ("remark: a.c:1:0: in artificial function 'k', DirectCalls = 2\n" ++
    "remark: direct call, callee is 'g'\n").toList

/-- The second line inherits its kernel from the first and adds a call to the number given there. -/
theorem mergedFor_of_two_lines :
    ∃ remarks d, parse (Text.encode twoLines) = .ok remarks ∧ MergedFor "k" remarks ∧
      (mergeByFunction remarks).get? "k" = some d ∧ d.directCalls = 3 ∧
      d.metrics.get? "DirectCalls" = some 2 ∧ d.callees = ["g"] := by
  have hdecode : Text.decode? (Text.encode twoLines) = some (.ofList twoLines) :=
    Text.decode?_encode twoLines
  obtain ⟨remarks, hparse, hmerged⟩ :
      ∃ remarks, parse (Text.encode twoLines) = .ok remarks ∧ MergedFor "k" remarks :=
    mergedFor_of_stream (by rw [hdecode]; rfl) (by decide)
  have hlines : remarks = remarksOfLines ((Text.textLines twoLines).map String.ofList) := by
    rw [parse_of_decode? hdecode, String.toList_ofList] at hparse
    exact (Except.ok.inj hparse).symm
  have hentry : ((mergeByFunction remarks).get? "k").map
      (fun d => (d.directCalls, d.metrics.get? "DirectCalls", d.callees)) =
        some (3, some 2, ["g"]) := by
    rw [hlines]
    decide
  obtain ⟨d, hd, hparts⟩ := Option.map_eq_some_iff.1 hentry
  simp only [Prod.mk.injEq] at hparts
  exact ⟨remarks, d, hparse, hmerged, hd, hparts⟩

end BuildRemarks.Kernel
