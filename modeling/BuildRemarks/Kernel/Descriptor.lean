import BuildRemarks.Kernel.MemoryAccess
import BuildRemarks.NameMap

/-!
# Kernel descriptors

A descriptor gathers what is reported about one kernel (specification, §3). Values come as
metrics, which are named numbers, and attributes, which are named texts; some metrics have
a gauge of their own. Gauges of 32 bits stay at their greatest value where a metric
exceeds it. `merge` folds the descriptor of a later line into that of the lines before:
values given explicitly replace earlier ones, sentences about calls and accesses are
counted up, and lists are joined.
-/

namespace BuildRemarks.Kernel

/-- The number of 32 bits nearest to one of 64. -/
def saturate (value : UInt64) : UInt32 :=
  if value.toNat < UInt32.size then value.toUInt32 else 0xFFFFFFFF

theorem saturate_toNat (value : UInt64) :
    (saturate value).toNat = min value.toNat (UInt32.size - 1) := by
  simp only [saturate]
  split
  · rename_i h
    rw [UInt64.toNat_toUInt32, Nat.mod_eq_of_lt h]
    simp only [UInt32.size] at h ⊢
    omega
  · rename_i h
    have hsize : (0xFFFFFFFF : UInt32).toNat = UInt32.size - 1 := rfl
    rw [hsize]
    simp only [UInt32.size] at h ⊢
    omega

/-- The sum of two counts, or the greatest number of 32 bits where that is less. -/
def addSaturating (a b : UInt32) : UInt32 :=
  if a.toNat + b.toNat < UInt32.size then a + b else 0xFFFFFFFF

theorem addSaturating_toNat (a b : UInt32) :
    (addSaturating a b).toNat = min (a.toNat + b.toNat) (UInt32.size - 1) := by
  simp only [addSaturating]
  split
  · rename_i h
    rw [UInt32.toNat_add, Nat.mod_eq_of_lt h]
    simp only [UInt32.size] at h ⊢
    omega
  · rename_i h
    have hsize : (0xFFFFFFFF : UInt32).toNat = UInt32.size - 1 := rfl
    rw [hsize]
    simp only [UInt32.size] at h ⊢
    omega

/-- What is known about a kernel. -/
structure Descriptor where
  threadLimit : UInt32 := 0
  maxThreadsX : UInt32 := 0
  maxThreadsY : UInt32 := 0
  maxThreadsZ : UInt32 := 0
  /-- Static shared memory in bytes. -/
  sharedMemory : UInt64 := 0
  target : Option String := none
  directCalls : UInt32 := 0
  indirectCalls : UInt32 := 0
  callees : List String := []
  allocas : UInt32 := 0
  allocasStaticSize : UInt64 := 0
  allocasDynamic : UInt32 := 0
  flatAccesses : UInt32 := 0
  inlineAssemblyCalls : UInt32 := 0
  stackBytes : UInt64 := 0
  instructions : UInt32 := 0
  memoryAccesses : List MemoryAccess := []
  basicBlocks : List BasicBlock := []
  metrics : NameMap UInt64 := .empty
  attributes : NameMap String := .empty
  deriving DecidableEq

/-- The fields of a descriptor that a metric sets (§4.3, step 2, and §G.3). -/
inductive Gauge where
  | directCalls
  | indirectCalls
  | flatAccesses
  | allocas
  | allocasStaticSize
  | allocasDynamic
  | inlineAssemblyCalls
  | stackBytes
  | instructions
  | sharedMemory
  | threadLimit
  | maxThreadsX
  | maxThreadsY
  | maxThreadsZ
  deriving DecidableEq

namespace Gauge

def named : List (String × Gauge) :=
  [("DirectCalls", directCalls), ("IndirectCalls", indirectCalls),
    ("FlatAddressSpaceAccesses", flatAccesses), ("AllocasCount", allocas),
    ("AllocasStaticSize", allocasStaticSize), ("AllocasDynamicCount", allocasDynamic),
    ("InlineAssemblyCalls", inlineAssemblyCalls), ("NumStackBytes", stackBytes),
    ("NumInstructions", instructions), ("SharedMemory", sharedMemory),
    ("ThreadLimit", threadLimit), ("omp_target_thread_limit", threadLimit),
    ("maxntidx", maxThreadsX), ("MaxThreadsX", maxThreadsX),
    ("maxntidy", maxThreadsY), ("MaxThreadsY", maxThreadsY),
    ("maxntidz", maxThreadsZ), ("MaxThreadsZ", maxThreadsZ)]

def ofName? (name : String) : Option Gauge := named.lookup name

end Gauge

namespace Descriptor

def blank : Descriptor := {}

def isEmpty (d : Descriptor) : Bool := decide (d = blank)

def set (d : Descriptor) (value : UInt64) : Gauge → Descriptor
  | .directCalls => { d with directCalls := saturate value }
  | .indirectCalls => { d with indirectCalls := saturate value }
  | .flatAccesses => { d with flatAccesses := saturate value }
  | .allocas => { d with allocas := saturate value }
  | .allocasStaticSize => { d with allocasStaticSize := value }
  | .allocasDynamic => { d with allocasDynamic := saturate value }
  | .inlineAssemblyCalls => { d with inlineAssemblyCalls := saturate value }
  | .stackBytes => { d with stackBytes := value }
  | .instructions => { d with instructions := saturate value }
  | .sharedMemory => { d with sharedMemory := value }
  | .threadLimit => { d with threadLimit := saturate value }
  | .maxThreadsX => { d with maxThreadsX := saturate value }
  | .maxThreadsY => { d with maxThreadsY := saturate value }
  | .maxThreadsZ => { d with maxThreadsZ := saturate value }

def applyMetric (d : Descriptor) (name : String) (value : UInt64) : Descriptor :=
  let d := { d with metrics := d.metrics.insert name value }
  match Gauge.ofName? name with
  | some gauge => d.set value gauge
  | none => d

/-- Records an attribute. The attribute `target`, in any case, is the target as well. -/
def applyAttribute (d : Descriptor) (name value : String) : Descriptor :=
  let d := { d with attributes := d.attributes.insert name value }
  if name.toLower = "target" then { d with target := some value } else d

/-- Records the metrics of a map in the order of their names. -/
def applyMetrics (d : Descriptor) (metrics : NameMap UInt64) : Descriptor :=
  metrics.entries.foldl (fun d e => d.applyMetric e.1 e.2) d

def applyAttributes (d : Descriptor) (attributes : NameMap String) : Descriptor :=
  attributes.entries.foldl (fun d e => d.applyAttribute e.1 e.2) d

/-- A counter behind a later line: the line's metric, if there is one, has set it
already, and otherwise the line's count is added. -/
def countUp (later : Descriptor) (metric : String) (present more : UInt32) : UInt32 :=
  if later.metrics.contains metric then present else addSaturating present more

def addCounts (d later : Descriptor) : Descriptor :=
  { d with
    directCalls := later.countUp "DirectCalls" d.directCalls later.directCalls
    indirectCalls := later.countUp "IndirectCalls" d.indirectCalls later.indirectCalls
    flatAccesses :=
      later.countUp "FlatAddressSpaceAccesses" d.flatAccesses later.flatAccesses
    callees := d.callees ++ later.callees
    memoryAccesses := d.memoryAccesses ++ later.memoryAccesses
    basicBlocks := d.basicBlocks ++ later.basicBlocks }

def merge (d later : Descriptor) : Descriptor :=
  ((d.applyMetrics later.metrics).applyAttributes later.attributes).addCounts later

end Descriptor

end BuildRemarks.Kernel
