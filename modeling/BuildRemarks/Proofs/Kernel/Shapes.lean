import BuildRemarks.Proofs.Kernel.ScanRun
import Mathlib.Logic.ExistsUnique

/-!
# One sentence per line

The descriptor of a line is that of one sentence: one metric, one attribute, one call or one access,
and nothing besides. Which of them it is can be read off the descriptor. Only a line with a metric
gives anything to the totals, and a descriptor that is merged into a blank one stays what it is.
-/

namespace BuildRemarks.Kernel

/-- What the descriptor of a line shows. -/
inductive Shape where
  | metric (name : String) (value : UInt64)
  | attr (name value : String)
  | indirectCall (callee : Option String)
  | directCall (callee : String)
  | access (found : MemoryAccess)
  /-- An access of unknown kind, of which the names are kept. -/
  | unclassified (instruction space : String)

def Shape.descriptor : Shape → Descriptor
  | metric name value => Descriptor.blank.applyMetric name value
  | attr name value => Descriptor.blank.applyAttribute name value
  | indirectCall none => { indirectCalls := 1 }
  | indirectCall (some callee) =>
    { indirectCalls := 1, attributes := NameMap.empty.insert "indirect_callee" callee }
  | directCall callee => { directCalls := 1, callees := [callee] }
  | access found => { flatAccesses := 1, memoryAccesses := [found] }
  | unclassified instruction space =>
    { flatAccesses := 1
      attributes := NameMap.empty.insert "access_instruction" instruction
        |>.insert "access_address_space" space }

/-- What a line does, whatever scan it comes to: the descriptor of its remark, and what becomes of
the totals. -/
structure OneSentence (line : List Char) (d : Option Descriptor) : Prop where
  emitted : ∀ s : Scan, ∃ r, (s.feed line).remarks = s.remarks ++ [r] ∧ r.kernel = d
  shape : ∀ found, d = some found → ∃! shape : Shape, found = shape.descriptor
  recorded_iff : ∀ name value,
    (∀ s : Scan, (s.feed line).totals = s.totals.record name value) ↔
      d = some (Shape.metric name value).descriptor
  unchanged_iff : (∀ s : Scan, (s.feed line).totals = s.totals) ↔
    ∀ name value, d ≠ some (Shape.metric name value).descriptor
  ne_blank : d ≠ some .blank
  blank_merge : ∀ found, d = some found → Descriptor.blank.merge found = found

/-! ### Descriptors by their parts -/

theorem Descriptor.ext_parts {d e : Descriptor} (hreading : ∀ g, d.reading g = e.reading g)
    (hmetrics : d.metrics = e.metrics) (hattributes : d.attributes = e.attributes)
    (htarget : d.target = e.target) (hlists : d.lists = e.lists) : d = e := by
  have h32 {a b : UInt32} (h : a.toNat = b.toNat) : a = b := UInt32.toNat_inj.1 h
  have h64 {a b : UInt64} (h : a.toNat = b.toNat) : a = b := UInt64.toNat_inj.1 h
  obtain ⟨hcallees, hrest⟩ := Prod.mk.inj hlists
  obtain ⟨haccesses, hblocks⟩ := Prod.mk.inj hrest
  cases d
  cases e
  rw [Descriptor.mk.injEq]
  exact ⟨h32 (hreading .threadLimit), h32 (hreading .maxThreadsX), h32 (hreading .maxThreadsY),
    h32 (hreading .maxThreadsZ), h64 (hreading .sharedMemory), htarget,
    h32 (hreading .directCalls), h32 (hreading .indirectCalls), hcallees,
    h32 (hreading .allocas), h64 (hreading .allocasStaticSize), h32 (hreading .allocasDynamic),
    h32 (hreading .flatAccesses), h32 (hreading .inlineAssemblyCalls),
    h64 (hreading .stackBytes), h32 (hreading .instructions), haccesses, hblocks, hmetrics,
    hattributes⟩

namespace Sentence

/-- Merged into a blank descriptor the descriptor of a sentence stays what it is. -/
theorem blank_merge_describe (s : Sentence) : Descriptor.blank.merge s.describe = s.describe := by
  -- a counter that starts at zero is far from where it is held
  have hlimit (g : Gauge) : min (0 + 1) g.limit = 1 := by
    cases g <;> decide
  refine Descriptor.ext_parts (fun g => ?_) ?_ ?_ ?_ ?_
  · have hmerge := reading_merge_describe .blank s g
    rw [Descriptor.reading_blank, hlimit] at hmerge
    exact hmerge.trans (reading_describe s g).symm
  · refine NameMap.ext_get? fun name => ?_
    rw [Descriptor.get?_metrics_merge]
    exact Option.or_none
  · refine NameMap.ext_get? fun name => ?_
    rw [Descriptor.get?_attributes_merge]
    exact Option.or_none
  · rw [target_merge_describe, target_describe]
    exact Option.or_none
  · have hcallees := Descriptor.callees_merge .blank s.describe
    have haccesses := Descriptor.memoryAccesses_merge .blank s.describe
    have hblocks := Descriptor.basicBlocks_merge .blank s.describe
    rw [Descriptor.lists, hcallees, haccesses, hblocks]
    rfl

/-! ### Shapes -/

theorem exists_shape (s : Sentence) : ∃ shape : Shape, s.describe = shape.descriptor := by
  cases s with
  | metric name value => exact ⟨.metric name value, rfl⟩
  | attr name value => exact ⟨.attr name value, rfl⟩
  | indirectCall callee =>
    refine ⟨.indirectCall callee, ?_⟩
    cases callee <;> rfl
  | directCall callee => exact ⟨.directCall callee, rfl⟩
  | access instruction viaCall operand space =>
    rw [describe, describeAccess]
    split
    · exact ⟨.access _, rfl⟩
    · exact ⟨.unclassified instruction space, rfl⟩

end Sentence

namespace Shape

def metric? : Shape → Option (String × UInt64)
  | metric name value => some (name, value)
  | _ => none

theorem metrics_descriptor (s : Shape) : s.descriptor.metrics.entries = s.metric?.toList := by
  cases s with
  | metric name value => exact (Sentence.metric name value).metrics_describe
  | attr name value => exact (Sentence.attr name value).metrics_describe
  | indirectCall callee => cases callee <;> rfl
  | directCall _ | access _ | unclassified _ _ => rfl

theorem attributes_descriptor (s : Shape) :
    s.descriptor.attributes.entries =
      match s with
      | attr name value => [(name, value)]
      | indirectCall (some callee) => [("indirect_callee", callee)]
      | unclassified instruction space =>
        [("access_address_space", space), ("access_instruction", instruction)]
      | _ => [] := by
  cases s with
  | metric name value =>
    rw [descriptor, Descriptor.attributes_applyMetric]
    rfl
  | attr name value =>
    rw [descriptor, Descriptor.attributes_applyAttribute]
    rfl
  | indirectCall callee => cases callee <;> rfl
  | directCall _ | access _ => rfl
  | unclassified instruction space => exact Sentence.entries_unclassified instruction space

theorem lists_descriptor (s : Shape) :
    s.descriptor.lists =
      match s with
      | directCall callee => ([callee], [], [])
      | access found => ([], [found], [])
      | _ => ([], [], []) := by
  cases s with
  | metric name value => exact Descriptor.lists_applyMetric .blank name value
  | attr name value => exact Descriptor.lists_applyAttribute .blank name value
  | indirectCall callee => cases callee <;> rfl
  | directCall _ | access _ | unclassified _ _ => rfl

theorem indirectCalls_descriptor {s : Shape} (h : s.metric? = none) :
    s.descriptor.reading .indirectCalls =
      match s with
      | indirectCall _ => 1
      | _ => 0 := by
  cases s with
  | metric name value => cases h
  | attr name value => exact Descriptor.reading_applyAttribute .blank name value .indirectCalls
  | indirectCall callee => cases callee <;> rfl
  | directCall _ | access _ | unclassified _ _ => rfl

/-- The shape that can be read off a descriptor: its metric, else its callee, else its access, else
its attributes, of which the one of an indirect call is told from others by the count. -/
def ofDescriptor (d : Descriptor) : Shape :=
  match d.metrics.entries, d.callees, d.memoryAccesses, d.attributes.entries with
  | (name, value) :: _, _, _, _ => metric name value
  | [], callee :: _, _, _ => directCall callee
  | [], [], found :: _, _ => access found
  | [], [], [], [(name, value)] =>
    if d.reading .indirectCalls = 0 then attr name value else indirectCall (some value)
  | [], [], [], (_, space) :: (_, instruction) :: _ => unclassified instruction space
  | [], [], [], [] => indirectCall none

theorem ofDescriptor_descriptor (s : Shape) : ofDescriptor s.descriptor = s := by
  have hmetrics := s.metrics_descriptor
  have hattributes := s.attributes_descriptor
  have hcallees : s.descriptor.callees = _ := congrArg (·.1) s.lists_descriptor
  have haccesses : s.descriptor.memoryAccesses = _ := congrArg (·.2.1) s.lists_descriptor
  rw [ofDescriptor, hmetrics, hattributes, hcallees, haccesses]
  cases s with
  | attr name value =>
    have hcount := indirectCalls_descriptor (s := attr name value) rfl
    rw [hcount]
    rfl
  | indirectCall callee => cases callee <;> rfl
  | metric _ _ | directCall _ | access _ | unclassified _ _ => rfl

theorem descriptor_injective {s t : Shape} (h : s.descriptor = t.descriptor) : s = t := by
  rw [← s.ofDescriptor_descriptor, h, t.ofDescriptor_descriptor]

theorem descriptor_ne_blank (s : Shape) : s.descriptor ≠ .blank := by
  intro h
  -- an indirect call without a callee is all that a descriptor without entries can show
  have hs : s = indirectCall none := by
    rw [← s.ofDescriptor_descriptor, h]
    rfl
  rw [hs] at h
  exact absurd h (by decide)

end Shape

theorem Sentence.describe_eq_metric_iff {s : Sentence} {name : String} {value : UInt64} :
    s.describe = (Shape.metric name value).descriptor ↔ s.metric? = some (name, value) := by
  constructor
  · intro h
    have hentries := congrArg (fun d => d.metrics.entries) h
    simp only [metrics_describe, Shape.metrics_descriptor] at hentries
    rw [← Option.mem_toList, hentries]
    exact List.mem_singleton.2 rfl
  · intro h
    cases s with
    | metric other word =>
      cases h
      rfl
    | attr _ _ | indirectCall _ | directCall _ | access _ _ _ _ => cases h

/-! ### Totals -/

theorem Totals.record_none_inj {name other : String} {value word : UInt64}
    (h : Totals.none.record name value = Totals.none.record other word) :
    (name, value) = (other, word) := by
  have hentries : [(name, value)] = [(other, word)] := congrArg (fun t => t.metrics.entries) h
  exact List.head_eq_of_cons_eq hentries

theorem Totals.record_ne_none (name : String) (value : UInt64) :
    Totals.none.record name value ≠ .none := by
  intro h
  have hentries : [(name, value)] = [] := congrArg (fun t => t.metrics.entries) h
  cases hentries

namespace Scan

theorem exists_sentence_of_kernel {s : Scan} {line : List Char} {found : Descriptor}
    (h : (s.remarkOf line).kernel = some found) :
    ∃ sentence : Sentence, found = sentence.describe := by
  rw [kernel_remarkOf, Option.map_eq_some_iff] at h
  obtain ⟨sentence, -, rfl⟩ := h
  exact ⟨sentence, rfl⟩

theorem metricOf?_eq_some_iff {line : List Char} {name : String} {value : UInt64} :
    metricOf? line = some (name, value) ↔
      (start.remarkOf line).kernel = some (Shape.metric name value).descriptor := by
  rw [metricOf?, kernel_remarkOf]
  cases Sentence.ofText? (messageOf (splitHeading line).2) with
  | none => simp
  | some sentence =>
    rw [Option.bind_some, Option.map_some, Option.some_inj]
    exact Sentence.describe_eq_metric_iff.symm

theorem recorded_iff {line : List Char} {name : String} {value : UInt64} :
    (∀ s : Scan, (s.feed line).totals = s.totals.record name value) ↔
      metricOf? line = some (name, value) := by
  constructor
  · intro h
    have hstart := h .start
    rw [totals_feed_eq] at hstart
    cases hmetric : metricOf? line with
    | none =>
      rw [hmetric] at hstart
      exact absurd hstart.symm (Totals.record_ne_none name value)
    | some found =>
      rw [hmetric] at hstart
      rw [← Totals.record_none_inj hstart]
  · intro h s
    rw [totals_feed_eq, h]
    rfl

theorem unchanged_iff {line : List Char} :
    (∀ s : Scan, (s.feed line).totals = s.totals) ↔ metricOf? line = none := by
  constructor
  · intro h
    have hstart := h .start
    rw [totals_feed_eq] at hstart
    cases hmetric : metricOf? line with
    | none => rfl
    | some found =>
      rw [hmetric] at hstart
      exact absurd hstart (Totals.record_ne_none found.1 found.2)
  · intro h s
    rw [totals_feed_eq, h]
    rfl

end Scan

/-- Every line, whatever it says, is one sentence or none. -/
theorem exists_oneSentence (line : List Char) : ∃ d, OneSentence line d := by
  refine ⟨(Scan.start.remarkOf line).kernel, ?_⟩
  exact {
    emitted := fun s => ⟨s.remarkOf line, s.remarks_feed line, rfl⟩
    shape := by
      intro found h
      obtain ⟨sentence, rfl⟩ := Scan.exists_sentence_of_kernel h
      obtain ⟨shape, hshape⟩ := sentence.exists_shape
      refine ⟨shape, hshape, fun other hother => ?_⟩
      exact Shape.descriptor_injective (hother.symm.trans hshape)
    recorded_iff := fun name value => Scan.recorded_iff.trans Scan.metricOf?_eq_some_iff
    unchanged_iff := by
      rw [Scan.unchanged_iff, Option.eq_none_iff_forall_ne_some, Prod.forall]
      exact forall_congr' fun name => forall_congr' fun value =>
        not_congr Scan.metricOf?_eq_some_iff
    ne_blank := by
      intro h
      obtain ⟨sentence, hblank⟩ := Scan.exists_sentence_of_kernel h
      obtain ⟨shape, hshape⟩ := sentence.exists_shape
      exact shape.descriptor_ne_blank (hshape.symm.trans hblank.symm)
    blank_merge := by
      intro found h
      obtain ⟨sentence, rfl⟩ := Scan.exists_sentence_of_kernel h
      exact sentence.blank_merge_describe }

end BuildRemarks.Kernel
