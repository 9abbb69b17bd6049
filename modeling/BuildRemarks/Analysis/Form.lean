import BuildRemarks.Analysis.Result
import BuildRemarks.Json.Reader

/-!
# Results of an analysis in JSON
-/

namespace BuildRemarks.Analysis

open Json

def countForm (n : Nat) : Value := .word (UInt64.ofNat n)

def Bottleneck.schema : Schema Bottleneck where
  title := "Bottleneck"
  start := ⟨.memory, .low, "", 0⟩
  lenient := false
  fields :=
    [.must "type" (.variant BottleneckKind.named) fun b v => { b with kind := v },
      .must "severity" (.variant Severity.named) fun b v => { b with severity := v },
      .must "description" .string fun b v => { b with description := v },
      .must "impact" .float fun b v => { b with impact := v }]

def Bottleneck.form (b : Bottleneck) : Value :=
  .object
    [("type", .string b.kind.name),
      ("severity", .string b.severity.name),
      ("description", .string b.description),
      ("impact", .float b.impact)]

def Recommendation.schema : Schema Recommendation where
  title := "Recommendation"
  start := ⟨"", "", "", ""⟩
  lenient := false
  fields :=
    [.must "category" .string fun r v => { r with category := v },
      .must "action" .string fun r v => { r with action := v },
      .must "impact" .string fun r v => { r with impact := v },
      .must "details" .string fun r v => { r with details := v }]

def Recommendation.form (r : Recommendation) : Value :=
  .object
    [("category", .string r.category),
      ("action", .string r.action),
      ("impact", .string r.impact),
      ("details", .string r.details)]

def MemoryProfile.schema : Schema MemoryProfile where
  title := "MemoryUsageProfile"
  start := {}
  lenient := false
  fields :=
    [.must "peak" .uint64 fun m v => { m with peak := v },
      .must "average" .uint64 fun m v => { m with average := v },
      .must "allocated" .uint64 fun m v => { m with allocated := v },
      .must "wasted" .int64 fun m v => { m with wasted := v }]

def MemoryProfile.form (m : MemoryProfile) : Value :=
  .object
    [("peak", .word m.peak),
      ("average", .word m.average),
      ("allocated", .word m.allocated),
      ("wasted", .integer (.ofInt64 m.wasted))]

def Overhead.schema : Schema Overhead where
  title := "CompilationOverhead"
  start := {}
  lenient := false
  fields :=
    [.must "parsing" .float fun o v => { o with parsing := v },
      .must "optimization" .float fun o v => { o with optimization := v },
      .must "codegen" .float fun o v => { o with codegen := v },
      .must "linking" .float fun o v => { o with linking := v }]

def Overhead.form (o : Overhead) : Value :=
  .object
    [("parsing", .float o.parsing),
      ("optimization", .float o.optimization),
      ("codegen", .float o.codegen),
      ("linking", .float o.linking)]

def OptimizationMetrics.schema : Schema OptimizationMetrics where
  title := "OptimizationMetrics"
  start := {}
  lenient := false
  fields :=
    [.must "successful_optimizations" .count fun m v => { m with successful := v },
      .must "missed_optimizations" .count fun m v => { m with missed := v },
      .must "analysis_remarks" .count fun m v => { m with analysis := v }]

def OptimizationMetrics.form (m : OptimizationMetrics) : Value :=
  .object
    [("successful_optimizations", countForm m.successful),
      ("missed_optimizations", countForm m.missed),
      ("analysis_remarks", countForm m.analysis)]

def Result.schema : Schema Result where
  title := "AnalysisResult"
  start := {}
  lenient := false
  fields :=
    [.must "resource_efficiency" .float fun r v => { r with efficiency := v },
      .must "memory_usage_profile" MemoryProfile.schema.read fun r v => { r with memory := v },
      .must "compilation_overhead" Overhead.schema.read fun r v => { r with overhead := v },
      .must "optimization_metrics" OptimizationMetrics.schema.read fun r v =>
        { r with metrics := v },
      .must "bottlenecks" (.list Bottleneck.schema.read) fun r v =>
        { r with bottlenecks := v },
      .must "recommendations" (.list Recommendation.schema.read) fun r v =>
        { r with recommendations := v }]

def Result.form (r : Result) : Value :=
  .object
    [("resource_efficiency", .float r.efficiency),
      ("memory_usage_profile", r.memory.form),
      ("compilation_overhead", r.overhead.form),
      ("optimization_metrics", r.metrics.form),
      ("bottlenecks", .list Bottleneck.form r.bottlenecks),
      ("recommendations", .list Recommendation.form r.recommendations)]

end BuildRemarks.Analysis
