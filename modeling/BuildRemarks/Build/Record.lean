import BuildRemarks.Remark.Basic

/-!
# Build records

A build record describes one run of a compiler: the host, the resources and the time it
took, and the remarks collected from it. Whatever is not known is zero or empty. The
remarks attached to a record have identifiers made of that of the record and their
position (specification, §6 and §G.7).
-/

namespace BuildRemarks.Build

structure Cpu where
  model : String := ""
  /-- The nominal frequency in MHz. -/
  frequency : Float := 0
  cores : UInt32 := 0
  threads : UInt32 := 0
  vendor : String := ""
  cacheSize : UInt64 := 0

/-- The memory of the host in bytes. -/
structure MemoryInfo where
  total : UInt64 := 0
  available : UInt64 := 0
  used : UInt64 := 0
  swapTotal : UInt64 := 0
  swapFree : UInt64 := 0

structure Gpu where
  model : String := ""
  memory : UInt64 := 0
  driver : String := ""
  capabilities : String := ""

structure Hardware where
  cpu : Cpu := {}
  memory : MemoryInfo := {}
  gpus : List Gpu := []

structure IoStats where
  readBytes : UInt64 := 0
  writtenBytes : UInt64 := 0
  reads : UInt64 := 0
  writes : UInt64 := 0

structure ResourceUsage where
  /-- Peak resident memory in bytes. -/
  maxMemory : UInt64 := 0
  /-- Processor time in seconds. -/
  cpuTime : Float := 0
  threads : UInt32 := 0
  transfers : IoStats := {}

/-- The times of a build in seconds. -/
structure Performance where
  compileTime : Float := 0
  linkTime : Float := 0
  optimizeTime : Float := 0
  phases : NameMap Float := .empty

/-- One run of a compiler. -/
structure Record where
  id : String := ""
  success : Bool := false
  /-- The time it took, in seconds. -/
  duration : Float := 0
  hardware : Hardware := {}
  usage : ResourceUsage := {}
  performance : Performance := {}
  remarks : List Remark := []

namespace Record

def new (id : String) : Record := { id }

/-- The identifier `<build-id>-<seq>` of the remark at a position, counted from one (§G.7). -/
def remarkId (id : String) (position : Nat) : String := id ++ "-" ++ toString position

/-- The remarks with identifiers that go on behind the first `count`. -/
def numbered (id : String) : (count : Nat) → List Remark → List Remark
  | _, [] => []
  | count, r :: rs => { r with id := remarkId id (count + 1) } :: numbered id (count + 1) rs

def attach (b : Record) (remarks : List Remark) : Record :=
  { b with remarks := b.remarks ++ numbered b.id b.remarks.length remarks }

end Record

end BuildRemarks.Build
