import BuildRemarks.NameMap

/-!
# Results of an analysis

What the analysis of a build finds: how well the host was used, what the memory and the
time went to, the outcomes of optimizations, and the bottlenecks with a recommendation for
each kind of them (specification, §4.4).
-/

namespace BuildRemarks.Analysis

inductive BottleneckKind where
  | memory
  | compilation
  | optimization
  deriving DecidableEq

inductive Severity where
  | low
  | medium
  | high
  deriving DecidableEq

def BottleneckKind.named : List (String × BottleneckKind) :=
  [("memory", memory), ("compilation", compilation), ("optimization", optimization)]

def BottleneckKind.name : BottleneckKind → String
  | memory => "memory"
  | compilation => "compilation"
  | optimization => "optimization"

def Severity.named : List (String × Severity) :=
  [("low", low), ("medium", medium), ("high", high)]

def Severity.name : Severity → String
  | low => "low"
  | medium => "medium"
  | high => "high"

structure Bottleneck where
  kind : BottleneckKind
  severity : Severity
  description : String
  /-- The value that shows the bottleneck. -/
  impact : Float

structure Recommendation where
  category : String
  action : String
  impact : String
  details : String
  deriving DecidableEq

def Recommendation.forKind : BottleneckKind → Recommendation
  | .memory =>
    { category := "Memory Usage"
      action := "Consider reducing static allocations"
      impact := "High"
      details := "Large static allocations detected. " ++
        "Consider using dynamic allocation or reducing buffer sizes." }
  | .compilation =>
    { category := "Build Performance"
      action := "Enable parallel compilation"
      impact := "Medium"
      details := "Long compilation time detected. " ++
        "Consider using -j flag or distributed compilation." }
  | .optimization =>
    { category := "Optimization"
      action := "Review missed optimization opportunities"
      impact := "Medium"
      details := "Multiple optimization opportunities were missed. " ++
        "Consider reviewing the code structure." }

/-- What the memory went to, in bytes. -/
structure MemoryProfile where
  peak : UInt64 := 0
  average : UInt64 := 0
  allocated : UInt64 := 0
  wasted : Int64 := 0
  deriving DecidableEq

/-- What the time went to, in seconds. -/
structure Overhead where
  parsing : Float := 0
  optimization : Float := 0
  codegen : Float := 0
  linking : Float := 0

structure OptimizationMetrics where
  successful : Nat := 0
  missed : Nat := 0
  analysis : Nat := 0
  deriving DecidableEq

structure Result where
  /-- The mean of the shares of threads and memory that were used. -/
  efficiency : Float := 0
  memory : MemoryProfile := {}
  overhead : Overhead := {}
  metrics : OptimizationMetrics := {}
  bottlenecks : List Bottleneck := []
  recommendations : List Recommendation := []

def Result.hasBottleneck (r : Result) (kind : BottleneckKind) : Bool :=
  r.bottlenecks.any fun b => b.kind = kind

theorem Result.hasBottleneck_iff (r : Result) (kind : BottleneckKind) :
    r.hasBottleneck kind = true ↔ ∃ b ∈ r.bottlenecks, b.kind = kind := by
  simp only [hasBottleneck, List.any_eq_true, decide_eq_true_eq]

end BuildRemarks.Analysis
