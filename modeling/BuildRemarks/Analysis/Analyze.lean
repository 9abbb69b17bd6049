import BuildRemarks.Analysis.Result
import BuildRemarks.Build.Record

/-!
# Analysing a build

Every part of the result is computed from the record alone, by the formulas and the fixed
thresholds of §4.4 of the specification. Shares of nothing are zero.
-/

namespace BuildRemarks.Analysis

def memoryThreshold : Float := 0.9

/-- The seconds above which compiling is a bottleneck. -/
def compileThreshold : Float := 60

def missedThreshold : Nat := 10

def parsingShare : Float := 0.2

def codegenShare : Float := 0.4

/-- The share that one number is of another, zero if that is zero. -/
def ratio (part whole : Float) : Float :=
  if whole > 0 then
    let share := part / whole
    if share > 0 then share else 0
  else 0

def memoryUtilization (b : Build.Record) : Float :=
  ratio b.usage.maxMemory.toFloat b.hardware.memory.total.toFloat

def threadUtilization (b : Build.Record) : Float :=
  ratio b.usage.threads.toFloat b.hardware.cpu.cores.toFloat

/-- The mean of the shares of threads and memory. -/
def resourceEfficiency (b : Build.Record) : Float :=
  (threadUtilization b + memoryUtilization b) / 2

/-- The sum of two signed words, or the least or greatest one where that is nearer. -/
def addClamped (a b : Int64) : Int64 :=
  Int64.ofInt (max Int64.minValue.toInt (min Int64.maxValue.toInt (a.toInt + b.toInt)))

theorem toInt_addClamped (a b : Int64) :
    (addClamped a b).toInt =
      max Int64.minValue.toInt (min Int64.maxValue.toInt (a.toInt + b.toInt)) := by
  have hmin := Int64.toInt_minValue
  have hmax := Int64.toInt_maxValue
  exact Int64.toInt_ofInt_of_le (by omega) (by omega)

def allocaSizes (rs : List Remark) : List Int64 :=
  (rs.filter fun r => Text.holds r.message "alloca").flatMap fun r => r.args.numericStrings

def memoryProfile (b : Build.Record) : MemoryProfile where
  peak := b.usage.maxMemory
  average := b.usage.maxMemory / 2
  allocated := b.usage.maxMemory
  wasted := (allocaSizes b.remarks).foldl addClamped 0

def overhead (b : Build.Record) : Overhead where
  parsing := b.performance.compileTime * parsingShare
  optimization := b.performance.optimizeTime
  codegen := b.performance.compileTime * codegenShare
  linking := b.performance.linkTime

def OptimizationMetrics.add (m : OptimizationMetrics) : Remark.Status → OptimizationMetrics
  | .passed => { m with successful := m.successful + 1 }
  | .missed => { m with missed := m.missed + 1 }
  | .analysis => { m with analysis := m.analysis + 1 }

def optimizationMetrics (b : Build.Record) : OptimizationMetrics :=
  b.remarks.foldl (fun m r => m.add r.status) {}

def memoryBottleneck? (b : Build.Record) : Option Bottleneck :=
  let share := memoryUtilization b
  if share > memoryThreshold then
    some ⟨.memory, .high, "High memory utilization", share⟩
  else none

def compilationBottleneck? (b : Build.Record) : Option Bottleneck :=
  let time := b.performance.compileTime
  if time > compileThreshold then
    some ⟨.compilation, .medium, "Long compilation time", time⟩
  else none

def optimizationBottleneck? (m : OptimizationMetrics) : Option Bottleneck :=
  if m.missed > missedThreshold then
    some ⟨.optimization, .low, "High number of missed optimizations",
      (UInt64.ofNat m.missed).toFloat⟩
  else none

def bottlenecks (b : Build.Record) (m : OptimizationMetrics) : List Bottleneck :=
  (memoryBottleneck? b).toList ++ (compilationBottleneck? b).toList
    ++ (optimizationBottleneck? m).toList

/-- The kinds without repetitions, in the order of their first occurrence; `seen` have
occurred before. -/
def distinctKinds (seen : List BottleneckKind) : List BottleneckKind → List BottleneckKind
  | [] => []
  | k :: ks =>
    if k ∈ seen then distinctKinds seen ks else k :: distinctKinds (k :: seen) ks

def recommendations (bs : List Bottleneck) : List Recommendation :=
  (distinctKinds [] (bs.map (·.kind))).map Recommendation.forKind

def analyze (b : Build.Record) : Result where
  efficiency := resourceEfficiency b
  memory := memoryProfile b
  overhead := overhead b
  metrics := optimizationMetrics b
  bottlenecks := bottlenecks b (optimizationMetrics b)
  recommendations := recommendations (bottlenecks b (optimizationMetrics b))

end BuildRemarks.Analysis
