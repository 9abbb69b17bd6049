import BuildRemarks.Kernel.Sentence
import BuildRemarks.Proofs.NameMap

/-!
# Gauges under metrics and merging

A gauge is read as a natural number below its limit. A metric of one of its names sets it,
up to the limit. Merging a later descriptor replays the metrics of that one and counts its
sentences up on the three counters, again up to the limit.
-/

namespace BuildRemarks.Kernel

namespace Gauge

/-- The greatest number that a gauge can show. -/
def limit : Gauge → Nat
  | allocasStaticSize | stackBytes | sharedMemory => UInt64.size - 1
  | _ => UInt32.size - 1

/-- What a metric leaves on a gauge. -/
def capped (g : Gauge) (value : UInt64) : Nat := min value.toNat g.limit

/-- The names of the metrics that set a gauge. -/
def metricNames (g : Gauge) : List String := (named.filter (·.2 = g)).map (·.1)

/-- The metric of a gauge on which sentences are counted. -/
def counterName? : Gauge → Option String
  | directCalls => some "DirectCalls"
  | indirectCalls => some "IndirectCalls"
  | flatAccesses => some "FlatAddressSpaceAccesses"
  | _ => none

end Gauge

theorem Gauge.ofName?_eq_some_iff {name : String} {g : Gauge} :
    Gauge.ofName? name = some g ↔ name ∈ g.metricNames := by
  have hnd : (named.map (·.1)).Nodup := by decide
  rw [ofName?, NameMap.lookup_eq_some_iff_mem hnd, metricNames, List.mem_map]
  constructor
  · intro h
    exact ⟨(name, g), List.mem_filter.2 ⟨h, decide_eq_true rfl⟩, rfl⟩
  · rintro ⟨e, he, rfl⟩
    obtain ⟨hm, hg⟩ := List.mem_filter.1 he
    have hg' : e.2 = g := of_decide_eq_true hg
    exact hg' ▸ hm

namespace Descriptor

/-- What a gauge shows. -/
def reading (d : Descriptor) : Gauge → Nat
  | .directCalls => d.directCalls.toNat
  | .indirectCalls => d.indirectCalls.toNat
  | .flatAccesses => d.flatAccesses.toNat
  | .allocas => d.allocas.toNat
  | .allocasStaticSize => d.allocasStaticSize.toNat
  | .allocasDynamic => d.allocasDynamic.toNat
  | .inlineAssemblyCalls => d.inlineAssemblyCalls.toNat
  | .stackBytes => d.stackBytes.toNat
  | .instructions => d.instructions.toNat
  | .sharedMemory => d.sharedMemory.toNat
  | .threadLimit => d.threadLimit.toNat
  | .maxThreadsX => d.maxThreadsX.toNat
  | .maxThreadsY => d.maxThreadsY.toNat
  | .maxThreadsZ => d.maxThreadsZ.toNat

theorem reading_blank (g : Gauge) : blank.reading g = 0 := by
  cases g <;> rfl

theorem reading_le_limit (d : Descriptor) (g : Gauge) : d.reading g ≤ g.limit := by
  have h32 (a : UInt32) : a.toNat ≤ UInt32.size - 1 := Nat.le_sub_one_of_lt a.toNat_lt_size
  have h64 (a : UInt64) : a.toNat ≤ UInt64.size - 1 := Nat.le_sub_one_of_lt a.toNat_lt_size
  cases g <;> first | exact h32 _ | exact h64 _

theorem reading_set_self (d : Descriptor) (value : UInt64) (g : Gauge) :
    (d.set value g).reading g = g.capped value := by
  have h64 : value.toNat = min value.toNat (UInt64.size - 1) :=
    (Nat.min_eq_left (Nat.le_sub_one_of_lt value.toNat_lt_size)).symm
  cases g <;> first | exact saturate_toNat value | exact h64

theorem reading_set_of_ne (d : Descriptor) (value : UInt64) {g h : Gauge} (hne : h ≠ g) :
    (d.set value g).reading h = d.reading h := by
  cases g <;> cases h <;> first | rfl | exact absurd rfl hne

theorem reading_applyMetric (d : Descriptor) (name : String) (value : UInt64) (g : Gauge) :
    (d.applyMetric name value).reading g =
      if name ∈ g.metricNames then g.capped value else d.reading g := by
  have hkeep (m : NameMap UInt64) : ({ d with metrics := m } : Descriptor).reading g =
      d.reading g := by
    cases g <;> rfl
  rw [applyMetric]
  cases hof : Gauge.ofName? name with
  | none =>
    have hnot : name ∉ g.metricNames := fun h => by
      rw [Gauge.ofName?_eq_some_iff.2 h] at hof
      exact absurd hof (by simp)
    rw [if_neg hnot]
    exact hkeep _
  | some h =>
    by_cases hg : g = h
    · subst hg
      rw [if_pos (Gauge.ofName?_eq_some_iff.1 hof)]
      exact reading_set_self _ value g
    · have hnot : name ∉ g.metricNames := fun hm => by
        rw [Gauge.ofName?_eq_some_iff.2 hm] at hof
        exact hg (Option.some.inj hof)
      rw [if_neg hnot]
      exact (reading_set_of_ne _ value hg).trans (hkeep _)

theorem reading_applyAttribute (d : Descriptor) (name value : String) (g : Gauge) :
    (d.applyAttribute name value).reading g = d.reading g := by
  rw [applyAttribute]
  split <;> cases g <;> rfl

theorem reading_applyAttributes (d : Descriptor) (m : NameMap String) (g : Gauge) :
    (d.applyAttributes m).reading g = d.reading g := by
  rw [applyAttributes]
  exact foldl_keeps (fun d => d.reading g) (fun d e => reading_applyAttribute d e.1 e.2 g) d
    m.entries

theorem countUp_toNat (later : Descriptor) (metric : String) (present more : UInt32) :
    (later.countUp metric present more).toNat =
      if later.metrics.contains metric then present.toNat
      else min (present.toNat + more.toNat) (UInt32.size - 1) := by
  rw [countUp]
  split
  · rfl
  · exact addSaturating_toNat present more

theorem reading_addCounts (d later : Descriptor) (g : Gauge) :
    (d.addCounts later).reading g =
      match g.counterName? with
      | some name =>
        if later.metrics.contains name then d.reading g
        else min (d.reading g + later.reading g) g.limit
      | none => d.reading g := by
  cases g <;> first | rfl | exact countUp_toNat ..

end Descriptor

end BuildRemarks.Kernel
