import BuildRemarks.Proofs.Kernel.Gauges

/-!
# Merging descriptors

What merging does to each part of a descriptor, first for any later descriptor and then for
that of a single sentence. A sentence that assigns a metric acts as that metric alone, one
that assigns an attribute as that attribute alone; the others are counted.
-/

namespace BuildRemarks.Kernel

namespace Descriptor

/-- The parts of a descriptor that neither metrics nor attributes touch. -/
def lists (d : Descriptor) : List String × List MemoryAccess × List BasicBlock :=
  (d.callees, d.memoryAccesses, d.basicBlocks)

/-! ### One metric, one attribute -/

theorem metrics_set (d : Descriptor) (value : UInt64) (g : Gauge) :
    (d.set value g).metrics = d.metrics := by
  cases g <;> rfl

theorem attributes_set (d : Descriptor) (value : UInt64) (g : Gauge) :
    (d.set value g).attributes = d.attributes := by
  cases g <;> rfl

theorem lists_set (d : Descriptor) (value : UInt64) (g : Gauge) :
    (d.set value g).lists = d.lists := by
  cases g <;> rfl

theorem target_set (d : Descriptor) (value : UInt64) (g : Gauge) :
    (d.set value g).target = d.target := by
  cases g <;> rfl

theorem metrics_applyMetric (d : Descriptor) (name : String) (value : UInt64) :
    (d.applyMetric name value).metrics = d.metrics.insert name value := by
  rw [applyMetric]
  split
  · exact metrics_set _ value _
  · rfl

theorem attributes_applyMetric (d : Descriptor) (name : String) (value : UInt64) :
    (d.applyMetric name value).attributes = d.attributes := by
  rw [applyMetric]
  split
  · exact attributes_set _ value _
  · rfl

theorem target_applyMetric (d : Descriptor) (name : String) (value : UInt64) :
    (d.applyMetric name value).target = d.target := by
  rw [applyMetric]
  split
  · exact target_set _ value _
  · rfl

theorem lists_applyMetric (d : Descriptor) (name : String) (value : UInt64) :
    (d.applyMetric name value).lists = d.lists := by
  rw [applyMetric]
  split
  · exact lists_set _ value _
  · rfl

theorem metrics_applyAttribute (d : Descriptor) (name value : String) :
    (d.applyAttribute name value).metrics = d.metrics := by
  rw [applyAttribute]
  split <;> rfl

theorem attributes_applyAttribute (d : Descriptor) (name value : String) :
    (d.applyAttribute name value).attributes = d.attributes.insert name value := by
  rw [applyAttribute]
  split <;> rfl

theorem target_applyAttribute (d : Descriptor) (name value : String) :
    (d.applyAttribute name value).target =
      if name.toLower = "target" then some value else d.target := by
  rw [applyAttribute]
  split <;> rfl

theorem lists_applyAttribute (d : Descriptor) (name value : String) :
    (d.applyAttribute name value).lists = d.lists := by
  rw [applyAttribute]
  split <;> rfl

/-! ### Whole maps -/

theorem metrics_applyMetrics (d : Descriptor) (m : NameMap UInt64) :
    (d.applyMetrics m).metrics = d.metrics.insertAll m.entries := by
  rw [applyMetrics, NameMap.insertAll]
  induction m.entries generalizing d with
  | nil => rfl
  | cons e es ih => rw [List.foldl_cons, List.foldl_cons, ih, metrics_applyMetric]

theorem attributes_applyMetrics (d : Descriptor) (m : NameMap UInt64) :
    (d.applyMetrics m).attributes = d.attributes := by
  rw [applyMetrics]
  exact foldl_keeps Descriptor.attributes (fun d e => attributes_applyMetric d e.1 e.2) d m.entries

theorem target_applyMetrics (d : Descriptor) (m : NameMap UInt64) :
    (d.applyMetrics m).target = d.target := by
  rw [applyMetrics]
  exact foldl_keeps Descriptor.target (fun d e => target_applyMetric d e.1 e.2) d m.entries

theorem metrics_applyAttributes (d : Descriptor) (m : NameMap String) :
    (d.applyAttributes m).metrics = d.metrics := by
  rw [applyAttributes]
  exact foldl_keeps Descriptor.metrics (fun d e => metrics_applyAttribute d e.1 e.2) d m.entries

theorem attributes_applyAttributes (d : Descriptor) (m : NameMap String) :
    (d.applyAttributes m).attributes = d.attributes.insertAll m.entries := by
  rw [applyAttributes, NameMap.insertAll]
  induction m.entries generalizing d with
  | nil => rfl
  | cons e es ih => rw [List.foldl_cons, List.foldl_cons, ih, attributes_applyAttribute]

theorem lists_applyBoth (d : Descriptor) (m : NameMap UInt64) (n : NameMap String) :
    ((d.applyMetrics m).applyAttributes n).lists = d.lists := by
  have hmetrics : (d.applyMetrics m).lists = d.lists := by
    rw [applyMetrics]
    exact foldl_keeps lists (fun d e => lists_applyMetric d e.1 e.2) d m.entries
  rw [applyAttributes, ← hmetrics]
  exact foldl_keeps lists (fun d e => lists_applyAttribute d e.1 e.2) _ n.entries

/-! ### A later descriptor -/

variable (d later : Descriptor)

theorem get?_metrics_merge (name : String) :
    (d.merge later).metrics.get? name =
      (later.metrics.get? name).or (d.metrics.get? name) := by
  show ((d.applyMetrics later.metrics).applyAttributes later.attributes).metrics.get? name = _
  rw [metrics_applyAttributes, metrics_applyMetrics, NameMap.get?_insertAll]

theorem get?_attributes_merge (name : String) :
    (d.merge later).attributes.get? name =
      (later.attributes.get? name).or (d.attributes.get? name) := by
  show ((d.applyMetrics later.metrics).applyAttributes
    later.attributes).attributes.get? name = _
  rw [attributes_applyAttributes, attributes_applyMetrics, NameMap.get?_insertAll]

theorem target_merge :
    (d.merge later).target =
      ((d.applyMetrics later.metrics).applyAttributes later.attributes).target := rfl

theorem callees_merge : (d.merge later).callees = d.callees ++ later.callees := by
  have h := lists_applyBoth d later.metrics later.attributes
  exact congrArg (· ++ later.callees) (congrArg (·.1) h)

theorem memoryAccesses_merge :
    (d.merge later).memoryAccesses = d.memoryAccesses ++ later.memoryAccesses := by
  have h := lists_applyBoth d later.metrics later.attributes
  exact congrArg (· ++ later.memoryAccesses) (congrArg (·.2.1) h)

theorem basicBlocks_merge :
    (d.merge later).basicBlocks = d.basicBlocks ++ later.basicBlocks := by
  have h := lists_applyBoth d later.metrics later.attributes
  exact congrArg (· ++ later.basicBlocks) (congrArg (·.2.2) h)

theorem reading_merge (g : Gauge) :
    (d.merge later).reading g =
      match g.counterName? with
      | some name =>
        if later.metrics.contains name then (d.applyMetrics later.metrics).reading g
        else min ((d.applyMetrics later.metrics).reading g + later.reading g) g.limit
      | none => (d.applyMetrics later.metrics).reading g := by
  have hcounts := reading_addCounts
    ((d.applyMetrics later.metrics).applyAttributes later.attributes) later g
  rw [reading_applyAttributes] at hcounts
  refine hcounts.trans ?_
  cases g.counterName? <;> rfl

end Descriptor

end BuildRemarks.Kernel
