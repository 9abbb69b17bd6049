import BuildRemarks.Build.Record
import BuildRemarks.Remark.Form

/-!
# Build records in JSON

Any part of a build record may be left out of its JSON form.
-/

namespace BuildRemarks.Build

open Json

def Cpu.schema : Schema Cpu where
  title := "Cpu"
  start := {}
  lenient := true
  fields :=
    [.may "model" .string fun c v => { c with model := v },
      .may "frequency" .float fun c v => { c with frequency := v },
      .may "cores" .uint32 fun c v => { c with cores := v },
      .may "threads" .uint32 fun c v => { c with threads := v },
      .may "vendor" .string fun c v => { c with vendor := v },
      .may "cache_size" .uint64 fun c v => { c with cacheSize := v }]

def Cpu.form (c : Cpu) : Value :=
  .object
    [("model", .string c.model),
      ("frequency", .float c.frequency),
      ("cores", .halfWord c.cores),
      ("threads", .halfWord c.threads),
      ("vendor", .string c.vendor),
      ("cache_size", .word c.cacheSize)]

def MemoryInfo.schema : Schema MemoryInfo where
  title := "MemoryInfo"
  start := {}
  lenient := true
  fields :=
    [.may "total" .uint64 fun m v => { m with total := v },
      .may "available" .uint64 fun m v => { m with available := v },
      .may "used" .uint64 fun m v => { m with used := v },
      .may "swap_total" .uint64 fun m v => { m with swapTotal := v },
      .may "swap_free" .uint64 fun m v => { m with swapFree := v }]

def MemoryInfo.form (m : MemoryInfo) : Value :=
  .object
    [("total", .word m.total),
      ("available", .word m.available),
      ("used", .word m.used),
      ("swap_total", .word m.swapTotal),
      ("swap_free", .word m.swapFree)]

def Gpu.schema : Schema Gpu where
  title := "Gpu"
  start := {}
  lenient := true
  fields :=
    [.may "model" .string fun g v => { g with model := v },
      .may "memory" .uint64 fun g v => { g with memory := v },
      .may "driver" .string fun g v => { g with driver := v },
      .may "compute_caps" .string fun g v => { g with capabilities := v }]

def Gpu.form (g : Gpu) : Value :=
  .object
    [("model", .string g.model),
      ("memory", .word g.memory),
      ("driver", .string g.driver),
      ("compute_caps", .string g.capabilities)]

def Hardware.schema : Schema Hardware where
  title := "Hardware"
  start := {}
  lenient := true
  fields :=
    [.may "cpu" Cpu.schema.read fun h v => { h with cpu := v },
      .may "memory" MemoryInfo.schema.read fun h v => { h with memory := v },
      .may "gpus" (.list Gpu.schema.read) fun h v => { h with gpus := v }]

def Hardware.form (h : Hardware) : Value :=
  .object
    [("cpu", h.cpu.form),
      ("memory", h.memory.form),
      ("gpus", .list Gpu.form h.gpus)]

def IoStats.schema : Schema IoStats where
  title := "IoStats"
  start := {}
  lenient := true
  fields :=
    [.may "read_bytes" .uint64 fun s v => { s with readBytes := v },
      .may "write_bytes" .uint64 fun s v => { s with writtenBytes := v },
      .may "read_count" .uint64 fun s v => { s with reads := v },
      .may "write_count" .uint64 fun s v => { s with writes := v }]

def IoStats.form (s : IoStats) : Value :=
  .object
    [("read_bytes", .word s.readBytes),
      ("write_bytes", .word s.writtenBytes),
      ("read_count", .word s.reads),
      ("write_count", .word s.writes)]

def ResourceUsage.schema : Schema ResourceUsage where
  title := "ResourceUsage"
  start := {}
  lenient := true
  fields :=
    [.may "max_memory" .uint64 fun u v => { u with maxMemory := v },
      .may "cpu_time" .float fun u v => { u with cpuTime := v },
      .may "threads" .uint32 fun u v => { u with threads := v },
      .may "io" IoStats.schema.read fun u v => { u with transfers := v }]

def ResourceUsage.form (u : ResourceUsage) : Value :=
  .object
    [("max_memory", .word u.maxMemory),
      ("cpu_time", .float u.cpuTime),
      ("threads", .halfWord u.threads),
      ("io", u.transfers.form)]

def Performance.schema : Schema Performance where
  title := "Performance"
  start := {}
  lenient := true
  fields :=
    [.may "compile_time" .float fun p v => { p with compileTime := v },
      .may "link_time" .float fun p v => { p with linkTime := v },
      .may "optimize_time" .float fun p v => { p with optimizeTime := v },
      .may "phases" (.map .float) fun p v => { p with phases := v }]

def Performance.form (p : Performance) : Value :=
  .object
    [("compile_time", .float p.compileTime),
      ("link_time", .float p.linkTime),
      ("optimize_time", .float p.optimizeTime),
      ("phases", .ofMap .float p.phases)]

def Record.schema : Schema Record where
  title := "BuildRecord"
  start := {}
  lenient := true
  fields :=
    [.may "id" .string fun b v => { b with id := v },
      .may "success" .bool fun b v => { b with success := v },
      .may "duration" .float fun b v => { b with duration := v },
      .may "hardware" Hardware.schema.read fun b v => { b with hardware := v },
      .may "resource_usage" ResourceUsage.schema.read fun b v => { b with usage := v },
      .may "performance" Performance.schema.read fun b v => { b with performance := v },
      .may "remarks" (.list Remark.read) fun b v => { b with remarks := v }]

def Record.readText (text : String) : Except Flaw Record := schema.read.text text

/-- The JSON form of a build record, whose remarks have the given form. -/
def Record.formWith (remark : Remark → Value) (b : Record) : Value :=
  .object
    [("id", .string b.id),
      ("success", .bool b.success),
      ("duration", .float b.duration),
      ("hardware", b.hardware.form),
      ("resource_usage", b.usage.form),
      ("performance", b.performance.form),
      ("remarks", .list remark b.remarks)]

def Record.form : Record → Value := formWith Remark.form

end BuildRemarks.Build
