import BuildRemarks.Json.Value
import BuildRemarks.Kernel.Descriptor

/-!
# Compiler remarks

A remark is one diagnostic of a compiler (specification, §3): what kind it is, which pass
reported it with what outcome, its message and place, the arguments it carries and the
kernel it describes. Whatever has no field of its own is kept as metadata.
-/

namespace BuildRemarks

namespace Remark

inductive Kind where
  | optimization
  /-- A line about an accelerator kernel. -/
  | kernel
  | analysis
  | metric
  | info
  deriving DecidableEq

inductive Pass where
  | vectorization
  | inlining
  | kernelInfo
  | sizeInfo
  /-- Any other pass. -/
  | analysis
  deriving DecidableEq

inductive Status where
  /-- The transformation was applied. -/
  | passed
  /-- The transformation was rejected. -/
  | missed
  /-- There was nothing to decide. -/
  | analysis
  deriving DecidableEq

def Kind.named : List (String × Kind) :=
  [("optimization", optimization), ("kernel", kernel), ("analysis", analysis),
    ("metric", metric), ("info", info)]

def Kind.name : Kind → String
  | optimization => "optimization"
  | kernel => "kernel"
  | analysis => "analysis"
  | metric => "metric"
  | info => "info"

theorem Kind.lookup_name (k : Kind) : named.lookup k.name = some k := by
  cases k <;> decide

def Pass.named : List (String × Pass) :=
  [("vectorization", vectorization), ("inlining", inlining), ("kernel-info", kernelInfo),
    ("size-info", sizeInfo), ("analysis", analysis)]

def Pass.name : Pass → String
  | vectorization => "vectorization"
  | inlining => "inlining"
  | kernelInfo => "kernel-info"
  | sizeInfo => "size-info"
  | analysis => "analysis"

theorem Pass.lookup_name (p : Pass) : named.lookup p.name = some p := by
  cases p <;> decide

/-- The pass that goes by a compiler's name for it, such as `loop-vectorize`. -/
def Pass.ofCompilerName (name : String) : Pass :=
  let name := name.toLower
  if Text.holds name "inline" then inlining
  else if Text.holds name "vectoriz" || Text.holds name "slp" then vectorization
  else if Text.holds name "kernel-info" then kernelInfo
  else if Text.holds name "size-info" then sizeInfo
  else analysis

def Status.named : List (String × Status) :=
  [("passed", passed), ("missed", missed), ("analysis", analysis)]

def Status.name : Status → String
  | passed => "passed"
  | missed => "missed"
  | analysis => "analysis"

theorem Status.lookup_name (s : Status) : named.lookup s.name = some s := by
  cases s <;> decide

/-- The outcome that the tag of a record gives, in any case and with or without
exclamation marks: `Passed`, `!Missed`, `AnalysisFPCommute`. -/
def Status.ofTag? (tag : String) : Option Status :=
  let word := ((Text.trim tag.toList).dropWhile (· == '!')).map Char.toLower
  if word = "passed".toList then some passed
  else if word = "missed".toList then some missed
  else if "analysis".toList.isPrefixOf word then some analysis
  else none

/-- A memory access that an argument refers to. -/
structure Access where
  type : Option String := none
  location : Option Location := none
  deriving DecidableEq

structure Args where
  /-- The plain texts in the order of the record. -/
  strings : List String := []
  /-- The function that is called or inlined. -/
  callee : Option String := none
  /-- The function it is called from or inlined into. -/
  caller : Option String := none
  valueType : Option String := none
  line : Option String := none
  column : Option String := none
  cost : Option String := none
  reason : Option String := none
  location : Option Location := none
  /-- The access that prevented an optimization. -/
  otherAccess : Option Access := none
  /-- The access that changed a value. -/
  clobberedBy : Option Access := none
  /-- The arguments of other names. -/
  values : NameMap String := .empty
  deriving DecidableEq

namespace Args

def none : Args := {}

def isEmpty (a : Args) : Bool := decide (a = none)

/-- The plain texts that are integers between blanks. -/
def numericStrings (a : Args) : List Int64 :=
  a.strings.filterMap fun s => Text.readInt64? (Text.trim s.toList)

end Args

def Timestamp.nanosPerSecond : Nat := 1000000000

/-- Where the seconds of points in time end. They are counted in signed words. -/
def Timestamp.secondsBound : Nat := 0x8000000000000000

/-- A point in time from the start of 1970 on. -/
structure Timestamp where
  seconds : Nat
  nanos : Nat
  seconds_lt : seconds < Timestamp.secondsBound := by decide
  nanos_lt : nanos < Timestamp.nanosPerSecond := by decide
  deriving DecidableEq

def Timestamp.epoch : Timestamp := { seconds := 0, nanos := 0 }

end Remark

/-- One diagnostic of a compiler. -/
structure Remark where
  /-- The identifier within a build, empty before the remark is attached to one. -/
  id : String
  kind : Remark.Kind
  pass : Remark.Pass
  status : Remark.Status
  message : String
  /-- The function around the place, empty if unknown. -/
  function : String
  location : Option Location
  args : Remark.Args
  kernel : Option Kernel.Descriptor
  metadata : NameMap Json.Value
  /-- The weight of the place in a profile. -/
  hotness : Option Int64
  timestamp : Remark.Timestamp

namespace Remark

/-- A remark of which only its classes and its message are known. -/
def plain (kind : Kind) (pass : Pass) (status : Status) (message : String) : Remark where
  id := ""
  kind
  pass
  status
  message
  function := ""
  location := none
  args := .none
  kernel := none
  metadata := .empty
  hotness := none
  timestamp := .epoch

def withText (r : Remark) (name value : String) : Remark :=
  { r with metadata := r.metadata.insert name (.string value) }

end Remark

end BuildRemarks
