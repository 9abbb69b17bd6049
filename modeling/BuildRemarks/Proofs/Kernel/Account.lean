import Mathlib.Data.List.Basic
import Mathlib.Data.List.Induction
import BuildRemarks.Proofs.Kernel.Described

/-!
# The account of many sentences

What merging the descriptors of sentences one after the other comes to. Whatever a sentence
assigns, the last assignment stands; a counter stands at its last assignment and counts the
sentences behind it; lists are joined. The inductions take the sentences from the back, since
the last one decides.
-/

namespace BuildRemarks.Kernel

/-- The descriptor of a kernel of which the sentences are told in turn. -/
def gather (ss : List Sentence) : Descriptor :=
  ss.foldl (fun d s => d.merge s.describe) .blank

/-- The value that the metrics of these names were given last. -/
def lastAssigned? (names : List String) (ss : List Sentence) : Option UInt64 :=
  (ss.filterMap (Sentence.assigned? names)).getLast?

/-- The number that the metrics of these names were given last, or else zero. -/
def lastValue (names : List String) (ss : List Sentence) : Nat :=
  ((lastAssigned? names ss).map UInt64.toNat).getD 0

/-- The sentences behind the last one that assigns a metric of these names. -/
def sinceAssigned (names : List String) (ss : List Sentence) : List Sentence :=
  (ss.reverse.takeWhile fun s => (s.assigned? names).isNone).reverse

/-- The sentences behind the last assignment that are counted on this counter. -/
def countSince (names : List String) (g : Gauge) (ss : List Sentence) : Nat :=
  (sinceAssigned names ss).countP fun s => s.counter? = some g

/-- The descriptor is what the sentences together say. -/
structure Account (ss : List Sentence) (d : Descriptor) : Prop where
  metrics : ∀ name, d.metrics.get? name = lastAssigned? [name] ss
  threadLimit : d.threadLimit.toNat =
    min (lastValue ["ThreadLimit", "omp_target_thread_limit"] ss) (UInt32.size - 1)
  maxThreadsX : d.maxThreadsX.toNat =
    min (lastValue ["maxntidx", "MaxThreadsX"] ss) (UInt32.size - 1)
  maxThreadsY : d.maxThreadsY.toNat =
    min (lastValue ["maxntidy", "MaxThreadsY"] ss) (UInt32.size - 1)
  maxThreadsZ : d.maxThreadsZ.toNat =
    min (lastValue ["maxntidz", "MaxThreadsZ"] ss) (UInt32.size - 1)
  sharedMemory : d.sharedMemory.toNat = lastValue ["SharedMemory"] ss
  allocas : d.allocas.toNat = min (lastValue ["AllocasCount"] ss) (UInt32.size - 1)
  allocasStaticSize : d.allocasStaticSize.toNat = lastValue ["AllocasStaticSize"] ss
  allocasDynamic : d.allocasDynamic.toNat =
    min (lastValue ["AllocasDynamicCount"] ss) (UInt32.size - 1)
  inlineAssemblyCalls : d.inlineAssemblyCalls.toNat =
    min (lastValue ["InlineAssemblyCalls"] ss) (UInt32.size - 1)
  stackBytes : d.stackBytes.toNat = lastValue ["NumStackBytes"] ss
  instructions : d.instructions.toNat =
    min (lastValue ["NumInstructions"] ss) (UInt32.size - 1)
  directCalls : d.directCalls.toNat =
    min (min (lastValue ["DirectCalls"] ss) (UInt32.size - 1) +
      countSince ["DirectCalls"] .directCalls ss) (UInt32.size - 1)
  indirectCalls : d.indirectCalls.toNat =
    min (min (lastValue ["IndirectCalls"] ss) (UInt32.size - 1) +
      countSince ["IndirectCalls"] .indirectCalls ss) (UInt32.size - 1)
  flatAccesses : d.flatAccesses.toNat =
    min (min (lastValue ["FlatAddressSpaceAccesses"] ss) (UInt32.size - 1) +
      countSince ["FlatAddressSpaceAccesses"] .flatAccesses ss) (UInt32.size - 1)
  callees : d.callees = ss.filterMap Sentence.callee?
  memoryAccesses : d.memoryAccesses = ss.flatMap fun s => s.describe.memoryAccesses
  basicBlocks : d.basicBlocks = []
  attributes : ∀ name, d.attributes.get? name =
    (ss.filterMap fun s => s.describe.attributes.get? name).getLast?
  target : d.target = (ss.filterMap Sentence.target?).getLast?

theorem gather_concat (ss : List Sentence) (s : Sentence) :
    gather (ss ++ [s]) = (gather ss).merge s.describe := by
  simp only [gather, List.foldl_append, List.foldl_cons, List.foldl_nil]

/-! ### What is assigned last -/

/-- A part that every sentence either sets or keeps is what was set last. -/
theorem gather_eq_getLast? {α : Type} (part : Descriptor → Option α)
    (said : Sentence → Option α) (hblank : part .blank = none)
    (hstep : ∀ d s, part (d.merge s.describe) = (said s).or (part d)) (ss : List Sentence) :
    part (gather ss) = (ss.filterMap said).getLast? := by
  induction ss using List.reverseRecOn with
  | nil => exact hblank
  | append_singleton ss s ih =>
    rw [gather_concat, hstep, ih, getLast?_filterMap_concat]

/-- A list that every sentence extends is the join of the extensions. -/
theorem gather_eq_flatMap {α : Type} (part : Descriptor → List α) (hblank : part .blank = [])
    (hstep : ∀ d later, part (d.merge later) = part d ++ part later) (ss : List Sentence) :
    part (gather ss) = ss.flatMap fun s => part s.describe := by
  induction ss using List.reverseRecOn with
  | nil => exact hblank
  | append_singleton ss s ih =>
    rw [gather_concat, hstep, ih, List.flatMap_append, List.flatMap_singleton]

theorem lastAssigned?_concat (names : List String) (ss : List Sentence) (s : Sentence) :
    lastAssigned? names (ss ++ [s]) = (s.assigned? names).or (lastAssigned? names ss) :=
  getLast?_filterMap_concat _ ss s

theorem lastValue_concat (names : List String) (ss : List Sentence) (s : Sentence) :
    lastValue names (ss ++ [s]) =
      match s.assigned? names with
      | some value => value.toNat
      | none => lastValue names ss := by
  rw [lastValue, lastAssigned?_concat]
  cases s.assigned? names <;> rfl

theorem lastValue_lt (names : List String) (ss : List Sentence) :
    lastValue names ss < UInt64.size := by
  rw [lastValue]
  cases lastAssigned? names ss with
  | none => exact Nat.zero_lt_of_lt (0 : UInt64).toNat_lt_size
  | some value => exact value.toNat_lt_size

theorem countSince_concat (names : List String) (g : Gauge) (ss : List Sentence)
    (s : Sentence) :
    countSince names g (ss ++ [s]) =
      match s.assigned? names with
      | some _ => 0
      | none => countSince names g ss + if s.counter? = some g then 1 else 0 := by
  simp only [countSince, sinceAssigned, List.reverse_append, List.reverse_singleton,
    List.singleton_append, List.takeWhile_cons]
  cases s.assigned? names with
  | some _ => rfl
  | none =>
    simp only [Option.isNone_none, if_true, List.reverse_cons, List.countP_append,
      List.countP_singleton, decide_eq_true_eq]

/-! ### Gauges -/

theorem reading_gather (g : Gauge) (ss : List Sentence) :
    (gather ss).reading g =
      min (min (lastValue g.metricNames ss) g.limit + countSince g.metricNames g ss) g.limit := by
  induction ss using List.reverseRecOn with
  | nil =>
    have hvalue : lastValue g.metricNames [] = 0 := rfl
    have hcount : countSince g.metricNames g [] = 0 := rfl
    rw [gather, List.foldl_nil, Descriptor.reading_blank, hvalue, hcount]
    omega
  | append_singleton ss s ih =>
    rw [gather_concat, Sentence.reading_merge_describe, ih, lastValue_concat, countSince_concat]
    cases s.assigned? g.metricNames with
    | some value =>
      simp only [Gauge.capped]
      omega
    | none =>
      simp only
      split <;> omega

theorem countSince_of_no_counter {g : Gauge} (h : g.counterName? = none)
    (names : List String) (ss : List Sentence) : countSince names g ss = 0 := by
  rw [countSince, List.countP_eq_zero]
  intro s _ hs
  exact Sentence.counterName?_ne_none (of_decide_eq_true hs) h

/-- A gauge on which nothing is counted shows the last value. -/
theorem reading_gather_of_no_counter {g : Gauge} (h : g.counterName? = none)
    (ss : List Sentence) : (gather ss).reading g = min (lastValue g.metricNames ss) g.limit := by
  rw [reading_gather, countSince_of_no_counter h]
  omega

theorem reading_gather_of_wide {g : Gauge} (h : g.counterName? = none)
    (hwide : g.limit = UInt64.size - 1) (ss : List Sentence) :
    (gather ss).reading g = lastValue g.metricNames ss := by
  have hlt := lastValue_lt g.metricNames ss
  rw [reading_gather_of_no_counter h, hwide]
  omega

/-! ### Lists -/

theorem callees_gather (ss : List Sentence) :
    (gather ss).callees = ss.filterMap Sentence.callee? := by
  rw [gather_eq_flatMap (·.callees) rfl Descriptor.callees_merge,
    List.filterMap_eq_flatMap_toList]
  simp only [Sentence.callees_describe]

theorem basicBlocks_gather (ss : List Sentence) : (gather ss).basicBlocks = [] := by
  rw [gather_eq_flatMap (·.basicBlocks) rfl Descriptor.basicBlocks_merge,
    List.flatMap_eq_nil_iff]
  exact fun s _ => s.basicBlocks_describe

theorem account_gather (ss : List Sentence) : Account ss (gather ss) where
  metrics name := gather_eq_getLast? (·.metrics.get? name) _ rfl
    (fun d s => Sentence.metrics_merge_describe d s name) ss
  threadLimit := reading_gather_of_no_counter (g := .threadLimit) rfl ss
  maxThreadsX := reading_gather_of_no_counter (g := .maxThreadsX) rfl ss
  maxThreadsY := reading_gather_of_no_counter (g := .maxThreadsY) rfl ss
  maxThreadsZ := reading_gather_of_no_counter (g := .maxThreadsZ) rfl ss
  sharedMemory := reading_gather_of_wide (g := .sharedMemory) rfl rfl ss
  allocas := reading_gather_of_no_counter (g := .allocas) rfl ss
  allocasStaticSize := reading_gather_of_wide (g := .allocasStaticSize) rfl rfl ss
  allocasDynamic := reading_gather_of_no_counter (g := .allocasDynamic) rfl ss
  inlineAssemblyCalls := reading_gather_of_no_counter (g := .inlineAssemblyCalls) rfl ss
  stackBytes := reading_gather_of_wide (g := .stackBytes) rfl rfl ss
  instructions := reading_gather_of_no_counter (g := .instructions) rfl ss
  directCalls := reading_gather .directCalls ss
  indirectCalls := reading_gather .indirectCalls ss
  flatAccesses := reading_gather .flatAccesses ss
  callees := callees_gather ss
  memoryAccesses := gather_eq_flatMap (·.memoryAccesses) rfl Descriptor.memoryAccesses_merge ss
  basicBlocks := basicBlocks_gather ss
  attributes name := gather_eq_getLast? (·.attributes.get? name) _ rfl
    (fun d s => Descriptor.get?_attributes_merge d s.describe name) ss
  target := gather_eq_getLast? (·.target) _ rfl Sentence.target_merge_describe ss

end BuildRemarks.Kernel
