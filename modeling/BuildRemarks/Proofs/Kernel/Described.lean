import BuildRemarks.Kernel.Sentence
import BuildRemarks.Proofs.Kernel.Merging

/-!
# Descriptors of single sentences

The descriptor of a sentence holds the metric that it assigns and no other, stands at one on
the counter that it counts on, and merging it into another descriptor is the one step that
the sentence means.
-/

namespace BuildRemarks.Kernel

theorem toLower_ne {s t : String} (h : s.toList.map Char.toLower ≠ t.toList) :
    s.toLower ≠ t := by
  intro e
  apply h
  have hlower : s.toLower = s.map Char.toLower := rfl
  rw [← e, hlower, String.toList_map]

theorem Gauge.metricNames_of_counterName? {g : Gauge} {name : String}
    (h : g.counterName? = some name) : g.metricNames = [name] := by
  cases g <;>
    first
    | exact congrArg (fun n => [n]) (Option.some.inj h)
    | exact absurd h (by simp [counterName?])

namespace Sentence

/-- The value that a sentence gives to a metric of one of these names. -/
def assigned? (names : List String) : Sentence → Option UInt64
  | metric name value => if name ∈ names then some value else none
  | _ => none

/-- The counter that a sentence is counted on. -/
def counter? : Sentence → Option Gauge
  | directCall _ => some .directCalls
  | indirectCall _ => some .indirectCalls
  | access _ _ _ _ => some .flatAccesses
  | metric _ _ | attr _ _ => none

def target? : Sentence → Option String
  | attr name value => if name.toLower = "target" then some value else none
  | _ => none

def callee? : Sentence → Option String
  | directCall callee => some callee
  | _ => none

/-- The names that an access of unknown kind leaves, in the order of the names. -/
theorem entries_unclassified (instruction space : String) :
    ((NameMap.empty.insert "access_instruction" instruction).insert
      "access_address_space" space).entries =
        [("access_address_space", space), ("access_instruction", instruction)] := by
  have h : "access_address_space" < "access_instruction" := by decide
  simp only [NameMap.insert, NameMap.insertEntry, NameMap.empty, h, if_true]

theorem metrics_describeAccess (instruction : String) (viaCall : Bool) (operand space : String) :
    (describeAccess instruction viaCall operand space).metrics = .empty := by
  rw [describeAccess]
  split <;> rfl

theorem metrics_describe (s : Sentence) : s.describe.metrics.entries = s.metric?.toList := by
  cases s with
  | metric name value =>
    rw [describe, Descriptor.metrics_applyMetric]
    rfl
  | attr name value =>
    rw [describe, Descriptor.metrics_applyAttribute]
    rfl
  | indirectCall callee => cases callee <;> rfl
  | directCall callee => rfl
  | access instruction viaCall operand space =>
    rw [describe, metrics_describeAccess]
    rfl

theorem metrics_describe_of_none {s : Sentence} (h : s.metric? = none) :
    s.describe.metrics = .empty :=
  NameMap.ext_entries (by rw [metrics_describe, h]; rfl)

theorem reading_describe_of_none {s : Sentence} (h : s.metric? = none) (g : Gauge) :
    s.describe.reading g = if s.counter? = some g then 1 else 0 := by
  cases s with
  | metric name value => exact absurd h (by simp [metric?])
  | attr name value =>
    rw [describe, Descriptor.reading_applyAttribute, Descriptor.reading_blank]
    rfl
  | indirectCall callee => cases callee <;> cases g <;> rfl
  | directCall callee => cases g <;> rfl
  | access instruction viaCall operand space =>
    rw [describe, describeAccess]
    split <;> cases g <;> rfl

theorem reading_describe_metric (name : String) (value : UInt64) (g : Gauge) :
    (metric name value).describe.reading g =
      if name ∈ g.metricNames then g.capped value else 0 := by
  rw [describe, Descriptor.reading_applyMetric, Descriptor.reading_blank]

theorem reading_describe (s : Sentence) (g : Gauge) :
    s.describe.reading g =
      match s.assigned? g.metricNames with
      | some value => g.capped value
      | none => if s.counter? = some g then 1 else 0 := by
  cases s with
  | metric name value =>
    rw [reading_describe_metric, assigned?]
    by_cases hname : name ∈ g.metricNames
    · rw [if_pos hname, if_pos hname]
    · rw [if_neg hname, if_neg hname]
      rfl
  | attr _ _ | indirectCall _ | directCall _ | access _ _ _ _ =>
    exact reading_describe_of_none rfl g

theorem target_describe (s : Sentence) : s.describe.target = s.target? := by
  cases s with
  | metric name value =>
    rw [describe, Descriptor.target_applyMetric]
    rfl
  | attr name value =>
    rw [describe, Descriptor.target_applyAttribute]
    rfl
  | indirectCall callee => cases callee <;> rfl
  | directCall callee => rfl
  | access instruction viaCall operand space =>
    rw [describe, describeAccess]
    split <;> rfl

theorem lists_describe (s : Sentence) :
    s.describe.lists = (s.callee?.toList, s.describe.memoryAccesses, []) := by
  cases s with
  | metric name value =>
    have hlists := Descriptor.lists_applyMetric .blank name value
    have haccesses : (Descriptor.blank.applyMetric name value).memoryAccesses = [] :=
      congrArg (·.2.1) hlists
    rw [describe, hlists, haccesses]
    rfl
  | attr name value =>
    have hlists := Descriptor.lists_applyAttribute .blank name value
    have haccesses : (Descriptor.blank.applyAttribute name value).memoryAccesses = [] :=
      congrArg (·.2.1) hlists
    rw [describe, hlists, haccesses]
    rfl
  | indirectCall callee => cases callee <;> rfl
  | directCall callee => rfl
  | access instruction viaCall operand space =>
    rw [describe, describeAccess]
    split <;> rfl

theorem callees_describe (s : Sentence) : s.describe.callees = s.callee?.toList :=
  congrArg (·.1) s.lists_describe

theorem basicBlocks_describe (s : Sentence) : s.describe.basicBlocks = [] :=
  congrArg (·.2.2) s.lists_describe

/-! ### The step that a sentence means -/

theorem metrics_merge_describe (d : Descriptor) (s : Sentence) (name : String) :
    (d.merge s.describe).metrics.get? name =
      (s.assigned? [name]).or (d.metrics.get? name) := by
  rw [Descriptor.get?_metrics_merge, NameMap.get?, metrics_describe]
  refine congrArg (Option.or · (d.metrics.get? name)) ?_
  cases s with
  | metric other value =>
    show ([(other, value)] : List (String × UInt64)).lookup name = _
    rw [NameMap.lookup_cons, assigned?]
    simp only [List.mem_singleton, eq_comm]
    rfl
  | attr _ _ | indirectCall _ | directCall _ | access _ _ _ _ => rfl

theorem counterName?_ne_none {s : Sentence} {g : Gauge} (h : s.counter? = some g) :
    g.counterName? ≠ none := by
  cases s <;> cases g <;>
    first
    | exact Option.some_ne_none _
    | simp [counter?] at h

theorem reading_merge_of_none {s : Sentence} (h : s.metric? = none) (d : Descriptor)
    (g : Gauge) :
    (d.merge s.describe).reading g =
      if s.counter? = some g then min (d.reading g + 1) g.limit else d.reading g := by
  have hkeep : d.applyMetrics .empty = d := rfl
  have hle : min (d.reading g) g.limit = d.reading g := Nat.min_eq_left (d.reading_le_limit g)
  rw [Descriptor.reading_merge, metrics_describe_of_none h, hkeep]
  cases hname : g.counterName? with
  | none =>
    have hc : s.counter? ≠ some g := fun hc => counterName?_ne_none hc hname
    rw [if_neg hc]
  | some name =>
    simp only [NameMap.not_contains_empty, Bool.false_eq_true, if_false,
      reading_describe_of_none h]
    by_cases hc : s.counter? = some g
    · rw [if_pos hc, if_pos hc]
    · rw [if_neg hc, if_neg hc, Nat.add_zero, hle]

theorem reading_merge_metric (d : Descriptor) (name : String) (value : UInt64) (g : Gauge) :
    (d.merge (metric name value).describe).reading g =
      if name ∈ g.metricNames then g.capped value else d.reading g := by
  have hmetrics : (metric name value).describe.metrics = NameMap.empty.insert name value :=
    Descriptor.metrics_applyMetric .blank name value
  have happly : d.applyMetrics (NameMap.empty.insert name value) = d.applyMetric name value := rfl
  have hle : min (d.reading g) g.limit = d.reading g := Nat.min_eq_left (d.reading_le_limit g)
  rw [Descriptor.reading_merge, hmetrics, happly, Descriptor.reading_applyMetric]
  cases hname : g.counterName? with
  | none => rfl
  | some counter =>
    -- the counter's only metric either is this one or is left alone by it
    have hmem : name ∈ g.metricNames ↔ name = counter := by
      rw [Gauge.metricNames_of_counterName? hname, List.mem_singleton]
    by_cases hn : name = counter
    · have hhas : (NameMap.empty.insert name value).contains counter = true := by
        rw [NameMap.contains_singleton, decide_eq_true hn.symm]
      simp only [hhas, if_true]
    · have hhas : (NameMap.empty.insert name value).contains counter = false := by
        rw [NameMap.contains_singleton, decide_eq_false fun e => hn e.symm]
      simp only [hhas, reading_describe_metric, hmem, hn, if_false, Bool.false_eq_true,
        Nat.add_zero, hle]

theorem reading_merge_describe (d : Descriptor) (s : Sentence) (g : Gauge) :
    (d.merge s.describe).reading g =
      match s.assigned? g.metricNames with
      | some value => g.capped value
      | none => if s.counter? = some g then min (d.reading g + 1) g.limit else d.reading g := by
  cases s with
  | metric name value =>
    rw [reading_merge_metric, assigned?]
    by_cases hn : name ∈ g.metricNames
    · rw [if_pos hn, if_pos hn]
    · rw [if_neg hn, if_neg hn]
      rfl
  | attr _ _ | indirectCall _ | directCall _ | access _ _ _ _ =>
    exact reading_merge_of_none rfl d g

theorem target_merge_describe (d : Descriptor) (s : Sentence) :
    (d.merge s.describe).target = s.target?.or d.target := by
  rw [Descriptor.target_merge]
  cases s with
  | metric name value =>
    have hattributes : (metric name value).describe.attributes = .empty :=
      Descriptor.attributes_applyMetric .blank name value
    rw [hattributes]
    exact Descriptor.target_applyMetrics d _
  | attr name value =>
    have hattributes : (attr name value).describe.attributes =
        NameMap.empty.insert name value :=
      Descriptor.attributes_applyAttribute .blank name value
    rw [metrics_describe_of_none rfl, hattributes]
    show (d.applyAttribute name value).target = _
    rw [Descriptor.target_applyAttribute, target?]
    split <;> rfl
  | indirectCall callee =>
    have hname : "indirect_callee".toLower ≠ "target" := toLower_ne (by decide)
    cases callee with
    | none => rfl
    | some callee =>
      show (d.applyAttribute "indirect_callee" callee).target = _
      rw [Descriptor.target_applyAttribute, if_neg hname]
      rfl
  | directCall callee => rfl
  | access instruction viaCall operand space =>
    have hspace : "access_address_space".toLower ≠ "target" := toLower_ne (by decide)
    have hinstruction : "access_instruction".toLower ≠ "target" := toLower_ne (by decide)
    rw [metrics_describe_of_none rfl, describe, describeAccess]
    split
    · rfl
    · simp only [Descriptor.applyAttributes, entries_unclassified, List.foldl_cons,
        List.foldl_nil, Descriptor.target_applyAttribute, hspace, hinstruction, if_false]
      rfl

end Sentence

end BuildRemarks.Kernel
