import BuildRemarks.Proofs.Kernel.ScanRun

/-!
# Consistent descriptors

What a descriptor shows agrees with the metrics and attributes that it holds, however it has
come about: from a line, by a metric or an attribute, or by merging descriptors of this kind in
any order. A gauge without a counter shows a metric of its own, since a merge replays the
metrics of the later side; a counter may only exceed its metric, since sentences are counted up
on it.
-/

namespace BuildRemarks.Kernel

namespace Descriptor

/-- The number that a metric gives, or else zero. -/
def metricValue (d : Descriptor) (name : String) : Nat :=
  ((d.metrics.get? name).map UInt64.toNat).getD 0

/-- What is shown is the value, up to the limit, of one of the metrics of these names that are
there, and zero if none of them is. -/
def ShowsOneOf (d : Descriptor) (names : List String) (limit shown : Nat) : Prop :=
  ((∀ name ∈ names, d.metrics.get? name = none) ∧ shown = 0) ∨
    ∃ name ∈ names, ∃ value,
      d.metrics.get? name = some value ∧ shown = min value.toNat limit

/-- The target is the value of one of the attributes named `target`, in any case, and unknown
if there is no such attribute. -/
def TargetNamed (d : Descriptor) : Prop :=
  ((∀ name, name.toLower = "target" → d.attributes.get? name = none) ∧ d.target = none) ∨
    ∃ name value, name.toLower = "target" ∧
      d.attributes.get? name = some value ∧ d.target = some value

/-- The parts of a descriptor agree with each other. -/
structure Consistent (d : Descriptor) : Prop where
  allocas : d.allocas.toNat = min (d.metricValue "AllocasCount") (UInt32.size - 1)
  allocasStaticSize : d.allocasStaticSize.toNat = d.metricValue "AllocasStaticSize"
  allocasDynamic :
    d.allocasDynamic.toNat = min (d.metricValue "AllocasDynamicCount") (UInt32.size - 1)
  inlineAssemblyCalls :
    d.inlineAssemblyCalls.toNat = min (d.metricValue "InlineAssemblyCalls") (UInt32.size - 1)
  stackBytes : d.stackBytes.toNat = d.metricValue "NumStackBytes"
  instructions :
    d.instructions.toNat = min (d.metricValue "NumInstructions") (UInt32.size - 1)
  sharedMemory : d.sharedMemory.toNat = d.metricValue "SharedMemory"
  threadLimit : d.ShowsOneOf ["ThreadLimit", "omp_target_thread_limit"] (UInt32.size - 1)
    d.threadLimit.toNat
  maxThreadsX : d.ShowsOneOf ["maxntidx", "MaxThreadsX"] (UInt32.size - 1) d.maxThreadsX.toNat
  maxThreadsY : d.ShowsOneOf ["maxntidy", "MaxThreadsY"] (UInt32.size - 1) d.maxThreadsY.toNat
  maxThreadsZ : d.ShowsOneOf ["maxntidz", "MaxThreadsZ"] (UInt32.size - 1) d.maxThreadsZ.toNat
  directCalls_ge :
    min (d.metricValue "DirectCalls") (UInt32.size - 1) ≤ d.directCalls.toNat
  indirectCalls_ge :
    min (d.metricValue "IndirectCalls") (UInt32.size - 1) ≤ d.indirectCalls.toNat
  flatAccesses_ge :
    min (d.metricValue "FlatAddressSpaceAccesses") (UInt32.size - 1) ≤ d.flatAccesses.toNat
  directCalls_counted : d.metrics.get? "DirectCalls" = none →
    d.directCalls.toNat = min d.callees.length (UInt32.size - 1)
  flatAccesses_counted : d.metrics.get? "FlatAddressSpaceAccesses" = none →
    min d.memoryAccesses.length (UInt32.size - 1) ≤ d.flatAccesses.toNat
  target : d.TargetNamed
  basicBlocks : d.basicBlocks = []

/-- The same for all gauges at once, as it is kept from step to step. -/
structure Coherent (d : Descriptor) : Prop where
  shows_metric : ∀ g : Gauge, g.counterName? = none →
    d.ShowsOneOf g.metricNames g.limit (d.reading g)
  ge_metric : ∀ (g : Gauge) (name : String), g.counterName? = some name →
    min (d.metricValue name) g.limit ≤ d.reading g
  directCalls_counted : d.metrics.get? "DirectCalls" = none →
    d.reading .directCalls = min d.callees.length (UInt32.size - 1)
  flatAccesses_counted : d.metrics.get? "FlatAddressSpaceAccesses" = none →
    min d.memoryAccesses.length (UInt32.size - 1) ≤ d.reading .flatAccesses
  target : d.TargetNamed
  basicBlocks : d.basicBlocks = []

variable {d later : Descriptor} {g : Gauge} {counter : String}

theorem applyMetrics_keeps {P : Descriptor → Prop}
    (hstep : ∀ e name value, P e → P (e.applyMetric name value)) (h : P d)
    (m : NameMap UInt64) : P (d.applyMetrics m) := by
  rw [applyMetrics]
  induction m.entries generalizing d with
  | nil => exact h
  | cons e es ih => exact ih (hstep d e.1 e.2 h)

/-! ### Gauges that show a metric -/

theorem ShowsOneOf.of_metrics_eq {e : Descriptor} {names : List String} {limit shown : Nat}
    (h : d.ShowsOneOf names limit shown) (hmetrics : e.metrics = d.metrics) :
    e.ShowsOneOf names limit shown := by
  rw [ShowsOneOf, hmetrics]
  exact h

theorem ShowsOneOf.applyMetric (h : d.ShowsOneOf g.metricNames g.limit (d.reading g))
    (name : String) (value : UInt64) :
    (d.applyMetric name value).ShowsOneOf g.metricNames g.limit
      ((d.applyMetric name value).reading g) := by
  rw [reading_applyMetric, ShowsOneOf, metrics_applyMetric]
  by_cases hname : name ∈ g.metricNames
  · rw [if_pos hname]
    exact Or.inr ⟨name, hname, value, NameMap.get?_insert_self d.metrics name value, rfl⟩
  · have hother (n : String) (hn : n ∈ g.metricNames) :
        (d.metrics.insert name value).get? n = d.metrics.get? n := by
      have hne : ¬ n = name := fun e => hname (e ▸ hn)
      rw [NameMap.get?_insert, if_neg hne]
    rw [if_neg hname]
    rcases h with ⟨hnone, hzero⟩ | ⟨n, hn, v, hv, hshown⟩
    · exact Or.inl ⟨fun n hn => (hother n hn).trans (hnone n hn), hzero⟩
    · exact Or.inr ⟨n, hn, v, (hother n hn).trans hv, hshown⟩

theorem ShowsOneOf.applyMetrics (h : d.ShowsOneOf g.metricNames g.limit (d.reading g))
    (m : NameMap UInt64) :
    (d.applyMetrics m).ShowsOneOf g.metricNames g.limit ((d.applyMetrics m).reading g) :=
  applyMetrics_keeps (P := fun e => e.ShowsOneOf g.metricNames g.limit (e.reading g))
    (fun _ name value he => he.applyMetric name value) h m

theorem ShowsOneOf.eq_metricValue {name : String} {limit shown : Nat}
    (h : d.ShowsOneOf [name] limit shown) : shown = min (d.metricValue name) limit := by
  rw [metricValue]
  rcases h with ⟨hnone, hzero⟩ | ⟨n, hn, value, hvalue, hshown⟩
  · rw [hnone name List.mem_cons_self, hzero]
    exact (Nat.zero_min limit).symm
  · rw [List.mem_singleton.1 hn] at hvalue
    rw [hvalue, hshown]
    rfl

/-! ### Counters -/

theorem metrics_merge (d later : Descriptor) :
    (d.merge later).metrics = (d.applyMetrics later.metrics).metrics := by
  show ((d.applyMetrics later.metrics).applyAttributes later.attributes).metrics = _
  exact metrics_applyAttributes _ later.attributes

/-- Counting sentences up never takes anything from a gauge. -/
theorem reading_applyMetrics_le_merge (d later : Descriptor) (g : Gauge) :
    (d.applyMetrics later.metrics).reading g ≤ (d.merge later).reading g := by
  have hle := (d.applyMetrics later.metrics).reading_le_limit g
  rw [reading_merge]
  cases g.counterName? with
  | none => exact Nat.le_refl _
  | some name =>
    simp only
    split <;> omega

theorem metricValue_applyMetric (d : Descriptor) (name other : String) (value : UInt64) :
    (d.applyMetric name value).metricValue other =
      if other = name then value.toNat else d.metricValue other := by
  rw [metricValue, metrics_applyMetric, NameMap.get?_insert]
  split <;> rfl

theorem reading_applyMetric_counter (hg : g.counterName? = some counter) (d : Descriptor)
    (name : String) (value : UInt64) :
    (d.applyMetric name value).reading g =
      if name = counter then g.capped value else d.reading g := by
  rw [reading_applyMetric]
  simp only [Gauge.metricNames_of_counterName? hg, List.mem_singleton]

theorem ge_metric_applyMetric (hg : g.counterName? = some counter)
    (h : min (d.metricValue counter) g.limit ≤ d.reading g) (name : String) (value : UInt64) :
    min ((d.applyMetric name value).metricValue counter) g.limit ≤
      (d.applyMetric name value).reading g := by
  rw [metricValue_applyMetric, reading_applyMetric_counter hg]
  by_cases hname : name = counter
  · rw [if_pos hname.symm, if_pos hname]
    exact Nat.le_refl _
  · rw [if_neg fun e => hname e.symm, if_neg hname]
    exact h

theorem ge_metric_merge (hg : g.counterName? = some counter)
    (h : min (d.metricValue counter) g.limit ≤ d.reading g) (later : Descriptor) :
    min ((d.merge later).metricValue counter) g.limit ≤ (d.merge later).reading g := by
  have hmetrics : min ((d.applyMetrics later.metrics).metricValue counter) g.limit ≤
      (d.applyMetrics later.metrics).reading g :=
    applyMetrics_keeps (P := fun e => min (e.metricValue counter) g.limit ≤ e.reading g)
      (fun _ name value he => ge_metric_applyMetric hg he name value) h later.metrics
  rw [metricValue, metrics_merge]
  exact Nat.le_trans hmetrics (reading_applyMetrics_le_merge d later g)

theorem reading_applyMetric_of_absent (hg : g.counterName? = some counter) {name : String}
    {value : UInt64} (h : (d.applyMetric name value).metrics.get? counter = none) :
    d.metrics.get? counter = none ∧ (d.applyMetric name value).reading g = d.reading g := by
  rw [metrics_applyMetric, NameMap.get?_insert] at h
  by_cases hname : counter = name
  · rw [if_pos hname] at h
    exact absurd h (by simp)
  · rw [if_neg hname] at h
    rw [reading_applyMetric_counter hg, if_neg fun e => hname e.symm]
    exact ⟨h, rfl⟩

theorem reading_applyMetrics_of_absent (hg : g.counterName? = some counter) {m : NameMap UInt64} :
    (d.applyMetrics m).metrics.get? counter = none →
      d.metrics.get? counter = none ∧ (d.applyMetrics m).reading g = d.reading g := by
  refine applyMetrics_keeps
    (P := fun e => e.metrics.get? counter = none →
      d.metrics.get? counter = none ∧ e.reading g = d.reading g)
    (fun e name value he habsent => ?_) (fun h => ⟨h, rfl⟩) m
  obtain ⟨hbefore, hreading⟩ := reading_applyMetric_of_absent hg habsent
  exact ⟨(he hbefore).1, hreading.trans (he hbefore).2⟩

/-- Without its metric a counter has counted what both sides have counted. -/
theorem reading_merge_of_absent (hg : g.counterName? = some counter)
    (h : (d.merge later).metrics.get? counter = none) :
    d.metrics.get? counter = none ∧ later.metrics.get? counter = none ∧
      (d.merge later).reading g = min (d.reading g + later.reading g) g.limit := by
  have hlater : later.metrics.get? counter = none := by
    rw [get?_metrics_merge] at h
    exact (Option.or_eq_none_iff.1 h).1
  have hcontains : later.metrics.contains counter = false := by
    rw [NameMap.contains, hlater]
    rfl
  rw [metrics_merge] at h
  obtain ⟨hd, hreading⟩ := reading_applyMetrics_of_absent hg h
  refine ⟨hd, hlater, ?_⟩
  rw [reading_merge, hg]
  simp only [hcontains, Bool.false_eq_true, if_false, hreading]

/-! ### The target -/

theorem TargetNamed.applyAttribute (h : d.TargetNamed) (name value : String) :
    (d.applyAttribute name value).TargetNamed := by
  rw [TargetNamed, target_applyAttribute, attributes_applyAttribute]
  by_cases hname : name.toLower = "target"
  · rw [if_pos hname]
    exact Or.inr ⟨name, value, hname, NameMap.get?_insert_self d.attributes name value, rfl⟩
  · have hother (n : String) (hn : n.toLower = "target") :
        (d.attributes.insert name value).get? n = d.attributes.get? n := by
      have hne : ¬ n = name := fun e => hname (e ▸ hn)
      rw [NameMap.get?_insert, if_neg hne]
    rw [if_neg hname]
    rcases h with ⟨hnone, htarget⟩ | ⟨n, v, hn, hv, htarget⟩
    · exact Or.inl ⟨fun n hn => (hother n hn).trans (hnone n hn), htarget⟩
    · exact Or.inr ⟨n, v, hn, (hother n hn).trans hv, htarget⟩

theorem TargetNamed.applyAttributes (h : d.TargetNamed) (m : NameMap String) :
    (d.applyAttributes m).TargetNamed := by
  rw [Descriptor.applyAttributes]
  induction m.entries generalizing d with
  | nil => exact h
  | cons e es ih => exact ih (h.applyAttribute e.1 e.2)

theorem TargetNamed.of_eq {e : Descriptor} (h : d.TargetNamed) (htarget : e.target = d.target)
    (hattributes : e.attributes = d.attributes) : e.TargetNamed := by
  rw [TargetNamed, htarget, hattributes]
  exact h

theorem TargetNamed.merge (h : d.TargetNamed) (later : Descriptor) :
    (d.merge later).TargetNamed := by
  have hmetrics : (d.applyMetrics later.metrics).TargetNamed :=
    h.of_eq (target_applyMetrics d later.metrics) (attributes_applyMetrics d later.metrics)
  exact (hmetrics.applyAttributes later.attributes).of_eq rfl rfl

/-! ### All parts -/

theorem callees_applyMetric (d : Descriptor) (name : String) (value : UInt64) :
    (d.applyMetric name value).callees = d.callees :=
  congrArg (·.1) (lists_applyMetric d name value)

theorem memoryAccesses_applyMetric (d : Descriptor) (name : String) (value : UInt64) :
    (d.applyMetric name value).memoryAccesses = d.memoryAccesses :=
  congrArg (·.2.1) (lists_applyMetric d name value)

theorem callees_applyAttribute (d : Descriptor) (name value : String) :
    (d.applyAttribute name value).callees = d.callees :=
  congrArg (·.1) (lists_applyAttribute d name value)

theorem memoryAccesses_applyAttribute (d : Descriptor) (name value : String) :
    (d.applyAttribute name value).memoryAccesses = d.memoryAccesses :=
  congrArg (·.2.1) (lists_applyAttribute d name value)

theorem coherent_blank : Coherent blank where
  shows_metric g _ := Or.inl ⟨fun _ _ => rfl, reading_blank g⟩
  ge_metric g _ _ := by
    rw [reading_blank]
    exact Nat.min_le_left 0 g.limit
  directCalls_counted _ := rfl
  flatAccesses_counted _ := Nat.le_refl 0
  target := Or.inl ⟨fun _ _ => rfl, rfl⟩
  basicBlocks := rfl

theorem Coherent.applyMetric (h : d.Coherent) (name : String) (value : UInt64) :
    (d.applyMetric name value).Coherent where
  shows_metric g hg := (h.shows_metric g hg).applyMetric name value
  ge_metric g _ hg := ge_metric_applyMetric hg (h.ge_metric g _ hg) name value
  directCalls_counted habsent := by
    obtain ⟨hbefore, hreading⟩ := reading_applyMetric_of_absent (g := .directCalls) rfl habsent
    rw [hreading, callees_applyMetric, h.directCalls_counted hbefore]
  flatAccesses_counted habsent := by
    obtain ⟨hbefore, hreading⟩ := reading_applyMetric_of_absent (g := .flatAccesses) rfl habsent
    rw [hreading, memoryAccesses_applyMetric]
    exact h.flatAccesses_counted hbefore
  target := h.target.of_eq (target_applyMetric d name value) (attributes_applyMetric d name value)
  basicBlocks := (congrArg (·.2.2) (lists_applyMetric d name value)).trans h.basicBlocks

theorem Coherent.applyAttribute (h : d.Coherent) (name value : String) :
    (d.applyAttribute name value).Coherent where
  shows_metric g hg := by
    rw [reading_applyAttribute]
    exact (h.shows_metric g hg).of_metrics_eq (metrics_applyAttribute d name value)
  ge_metric g counter hg := by
    rw [reading_applyAttribute, metricValue, metrics_applyAttribute]
    exact h.ge_metric g counter hg
  directCalls_counted habsent := by
    rw [metrics_applyAttribute] at habsent
    rw [reading_applyAttribute, callees_applyAttribute, h.directCalls_counted habsent]
  flatAccesses_counted habsent := by
    rw [metrics_applyAttribute] at habsent
    rw [reading_applyAttribute, memoryAccesses_applyAttribute]
    exact h.flatAccesses_counted habsent
  target := h.target.applyAttribute name value
  basicBlocks := (congrArg (·.2.2) (lists_applyAttribute d name value)).trans h.basicBlocks

theorem Coherent.merge (h : d.Coherent) (hlater : later.Coherent) :
    (d.merge later).Coherent where
  shows_metric g hg := by
    have hreading : (d.merge later).reading g = (d.applyMetrics later.metrics).reading g := by
      rw [reading_merge, hg]
    rw [hreading]
    exact ((h.shows_metric g hg).applyMetrics later.metrics).of_metrics_eq
      (metrics_merge d later)
  ge_metric g _ hg := ge_metric_merge hg (h.ge_metric g _ hg) later
  directCalls_counted habsent := by
    obtain ⟨hd, hl, hreading⟩ := reading_merge_of_absent (g := .directCalls) rfl habsent
    have hlimit : Gauge.directCalls.limit = UInt32.size - 1 := rfl
    -- each side has counted its own callees up to the limit, and so is the sum
    rw [hreading, h.directCalls_counted hd, hlater.directCalls_counted hl, callees_merge,
      List.length_append, hlimit]
    omega
  flatAccesses_counted habsent := by
    obtain ⟨hd, hl, hreading⟩ := reading_merge_of_absent (g := .flatAccesses) rfl habsent
    have hlimit : Gauge.flatAccesses.limit = UInt32.size - 1 := rfl
    have hbefore := h.flatAccesses_counted hd
    have hmore := hlater.flatAccesses_counted hl
    rw [hreading, memoryAccesses_merge, List.length_append, hlimit]
    omega
  target := h.target.merge later
  basicBlocks := by rw [basicBlocks_merge, h.basicBlocks, hlater.basicBlocks, List.append_nil]

theorem min_metricValue (d : Descriptor) (name : String) :
    min (d.metricValue name) (UInt64.size - 1) = d.metricValue name := by
  refine Nat.min_eq_left ?_
  rw [metricValue]
  cases d.metrics.get? name with
  | none => exact Nat.zero_le _
  | some value => exact Nat.le_sub_one_of_lt value.toNat_lt_size

theorem Coherent.consistent (h : d.Coherent) : d.Consistent where
  allocas := (h.shows_metric .allocas rfl).eq_metricValue
  allocasStaticSize :=
    (h.shows_metric .allocasStaticSize rfl).eq_metricValue.trans (d.min_metricValue _)
  allocasDynamic := (h.shows_metric .allocasDynamic rfl).eq_metricValue
  inlineAssemblyCalls := (h.shows_metric .inlineAssemblyCalls rfl).eq_metricValue
  stackBytes := (h.shows_metric .stackBytes rfl).eq_metricValue.trans (d.min_metricValue _)
  instructions := (h.shows_metric .instructions rfl).eq_metricValue
  sharedMemory := (h.shows_metric .sharedMemory rfl).eq_metricValue.trans (d.min_metricValue _)
  threadLimit := h.shows_metric .threadLimit rfl
  maxThreadsX := h.shows_metric .maxThreadsX rfl
  maxThreadsY := h.shows_metric .maxThreadsY rfl
  maxThreadsZ := h.shows_metric .maxThreadsZ rfl
  directCalls_ge := h.ge_metric .directCalls _ rfl
  indirectCalls_ge := h.ge_metric .indirectCalls _ rfl
  flatAccesses_ge := h.ge_metric .flatAccesses _ rfl
  directCalls_counted := h.directCalls_counted
  flatAccesses_counted := h.flatAccesses_counted
  target := h.target
  basicBlocks := h.basicBlocks

end Descriptor

end BuildRemarks.Kernel
