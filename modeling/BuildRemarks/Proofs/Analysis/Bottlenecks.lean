import BuildRemarks.Proofs.Analysis.Recommendations
import BuildRemarks.Proofs.Collect.SessionRuns
import BuildRemarks.Query

/-!
# Outcomes and bottlenecks

The outcomes of optimizations that an analysis states are those that a query of the remarks
counts, each remark once. A build has the bottlenecks whose thresholds it exceeds, in one order,
and a recommendation for each of them. Nothing that is done to it in a session takes the build
below a threshold again, since remarks are only ever added to it.
-/

namespace BuildRemarks.Analysis

open Build (Record)

/-! ### Outcomes -/

namespace OptimizationMetrics

def countOf (m : OptimizationMetrics) : Remark.Status → Nat
  | .passed => m.successful
  | .missed => m.missed
  | .analysis => m.analysis

def ofSummary (s : Query.StatusSummary) : OptimizationMetrics :=
  ⟨s.passed, s.missed, s.analysis⟩

instance : Add OptimizationMetrics where
  add m n := ⟨m.successful + n.successful, m.missed + n.missed, m.analysis + n.analysis⟩

variable {m n : OptimizationMetrics}

theorem ext_countOf (h : ∀ o, m.countOf o = n.countOf o) : m = n := by
  cases m
  cases n
  rw [mk.injEq]
  exact ⟨h .passed, h .missed, h .analysis⟩

theorem countOf_sum (m n : OptimizationMetrics) (o : Remark.Status) :
    (m + n).countOf o = m.countOf o + n.countOf o := by
  cases o <;> rfl

theorem countOf_add (m : OptimizationMetrics) (s o : Remark.Status) :
    (m.add s).countOf o = m.countOf o + if s = o then 1 else 0 := by
  cases s <;> cases o <;> rfl

theorem ofSummary_add (s : Query.StatusSummary) (o : Remark.Status) :
    (ofSummary s).add o = ofSummary (s.add o) := by
  cases o <;> rfl

theorem foldl_add_ofSummary (s : Query.StatusSummary) (rs : List Remark) :
    rs.foldl (fun m r => m.add r.status) (ofSummary s) =
      ofSummary (rs.foldl (fun s r => s.add r.status) s) :=
  List.foldl_hom ofSummary fun s r => ofSummary_add s r.status

theorem countOf_foldl_add (m : OptimizationMetrics) (rs : List Remark) (o : Remark.Status) :
    (rs.foldl (fun m r => m.add r.status) m).countOf o =
      m.countOf o + rs.countP fun r => r.status = o := by
  induction rs generalizing m with
  | nil => rfl
  | cons r rs ih =>
    rw [List.foldl_cons, ih, countOf_add, List.countP_cons]
    simp only [decide_eq_true_eq]
    omega

end OptimizationMetrics

theorem countOf_metrics (b : Record) (o : Remark.Status) :
    (analyze b).metrics.countOf o = b.remarks.countP fun r => r.status = o := by
  have hnone : OptimizationMetrics.countOf {} o = 0 := by cases o <;> rfl
  have hrun := OptimizationMetrics.countOf_foldl_add {} b.remarks o
  rwa [hnone, Nat.zero_add] at hrun

theorem metrics_eq_ofSummary (b : Record) :
    (analyze b).metrics = .ofSummary (.ofRemarks b.remarks) :=
  OptimizationMetrics.foldl_add_ofSummary {} b.remarks

theorem metrics_append (b : Record) (xs ys : List Remark) :
    (analyze { b with remarks := xs ++ ys }).metrics =
      (analyze { b with remarks := xs }).metrics + (analyze { b with remarks := ys }).metrics := by
  refine OptimizationMetrics.ext_countOf fun o => ?_
  rw [OptimizationMetrics.countOf_sum]
  simp only [countOf_metrics, List.countP_append]

/-! ### Thresholds -/

/-- The build exceeds the threshold of a kind of bottleneck. -/
def Exceeds (b : Record) : BottleneckKind → Prop
  | .memory => memoryUtilization b > memoryThreshold
  | .compilation => b.performance.compileTime > compileThreshold
  | .optimization => b.remarks.countP (fun r => r.status = .missed) > 10

instance (b : Record) : DecidablePred (Exceeds b)
  | .memory => inferInstanceAs (Decidable (memoryUtilization b > memoryThreshold))
  | .compilation => inferInstanceAs (Decidable (b.performance.compileTime > compileThreshold))
  | .optimization =>
    inferInstanceAs (Decidable (b.remarks.countP (fun r => r.status = .missed) > 10))

def allKinds : List BottleneckKind := [.memory, .compilation, .optimization]

theorem kindsOf_raised {b : Record} {p : Prop} [Decidable p] {x : Bottleneck}
    (h : p ↔ Exceeds b x.kind) :
    kindsOf (if p then some x else none).toList = [x.kind].filter fun k => Exceeds b k := by
  by_cases hp : p
  · have hk : Exceeds b x.kind := h.1 hp
    simp only [kindsOf, if_pos hp, List.filter_cons, hk, decide_true, if_true]
    rfl
  · have hk : ¬ Exceeds b x.kind := fun hk => hp (h.2 hk)
    simp only [kindsOf, if_neg hp, List.filter_cons, hk, decide_false, Bool.false_eq_true, if_false]
    rfl

/-- A build has the bottlenecks whose thresholds it exceeds, in the order of all kinds. -/
theorem kindsOf_bottlenecks (b : Record) :
    kindsOf (analyze b).bottlenecks = allKinds.filter fun k => Exceeds b k := by
  have hmemory : kindsOf (memoryBottleneck? b).toList =
      [.memory].filter fun k => Exceeds b k := kindsOf_raised Iff.rfl
  have hcompilation : kindsOf (compilationBottleneck? b).toList =
      [.compilation].filter fun k => Exceeds b k := kindsOf_raised Iff.rfl
  -- this threshold is compared with the number among the outcomes, not with the remarks
  have hmissed : (optimizationMetrics b).missed > missedThreshold ↔ Exceeds b .optimization := by
    have hcount : (optimizationMetrics b).missed = _ := countOf_metrics b .missed
    rw [hcount]
    exact Iff.rfl
  have hoptimization : kindsOf (optimizationBottleneck? (optimizationMetrics b)).toList =
      [.optimization].filter fun k => Exceeds b k := kindsOf_raised hmissed
  show kindsOf (bottlenecks b (optimizationMetrics b)) = _
  rw [kindsOf] at hmemory hcompilation hoptimization
  rw [bottlenecks, kindsOf, List.map_append, List.map_append, hmemory, hcompilation, hoptimization,
    ← List.filter_append, ← List.filter_append]
  rfl

theorem mem_kindsOf_bottlenecks {b : Record} {k : BottleneckKind} :
    k ∈ kindsOf (analyze b).bottlenecks ↔ Exceeds b k := by
  have hall : k ∈ allKinds := by cases k <;> decide
  rw [kindsOf_bottlenecks, List.mem_filter, decide_eq_true_eq]
  exact and_iff_right hall

theorem kindsOf_bottlenecks_sublist (b : Record) :
    (kindsOf (analyze b).bottlenecks).Sublist allKinds := by
  rw [kindsOf_bottlenecks]
  exact List.filter_sublist

theorem nodup_kindsOf_bottlenecks (b : Record) : (kindsOf (analyze b).bottlenecks).Nodup :=
  (kindsOf_bottlenecks_sublist b).nodup (by decide)

/-! ### Growing builds -/

theorem Exceeds.of_extends {b later : Record} {rs : List Remark} {k : BottleneckKind}
    (hk : Exceeds b k) (h : Record.Extends rs b later) : Exceeds later k := by
  obtain ⟨added, hadded, -⟩ := h.remarks
  rw [h.rest]
  cases k with
  | memory => exact hk
  | compilation => exact hk
  | optimization =>
    show later.remarks.countP (fun r => r.status = .missed) > 10
    rw [hadded, List.countP_append]
    exact Nat.lt_add_right _ hk

theorem Exceeds.of_comes {b later : Record} {action : Collect.Action}
    {answer : Except Failure Nat} {k : BottleneckKind} (hk : Exceeds b k)
    (h : Collect.Comes b action answer later) : Exceeds later k := by
  cases h with
  | failed => exact hk
  | attached _ hlater => exact hk.of_extends hlater
  | added hlater => exact hk.of_extends hlater
  | renamed => cases k <;> exact hk

theorem Exceeds.afterActions {b : Record} {k : BottleneckKind} (hk : Exceeds b k)
    (actions : List Collect.Action) : Exceeds (Collect.afterActions b actions) k := by
  induction actions generalizing b with
  | nil => exact hk
  | cons action actions ih => exact ih (hk.of_comes (Collect.comes_outcome action b))

theorem kindsOf_bottlenecks_sublist_of_exceeds {b later : Record}
    (h : ∀ k, Exceeds b k → Exceeds later k) :
    (kindsOf (analyze b).bottlenecks).Sublist (kindsOf (analyze later).bottlenecks) := by
  rw [kindsOf_bottlenecks, kindsOf_bottlenecks]
  refine List.monotone_filter_right allKinds fun k hk => ?_
  rw [decide_eq_true_eq] at hk ⊢
  exact h k hk

/-! ### The parts of an analysis -/

/-- The parts of the analysis of a build agree with its remarks and with each other. -/
structure PartsAgree (b : Record) : Prop where
  metrics_eq : (analyze b).metrics = .ofSummary (.ofRemarks b.remarks)
  counts : ∀ o, (analyze b).metrics.countOf o = b.remarks.countP fun r => r.status = o
  additive : ∀ xs ys, (analyze { b with remarks := xs ++ ys }).metrics =
    (analyze { b with remarks := xs }).metrics + (analyze { b with remarks := ys }).metrics
  total : (analyze b).metrics.successful + (analyze b).metrics.missed +
    (analyze b).metrics.analysis = b.remarks.length
  nodup : (kindsOf (analyze b).bottlenecks).Nodup
  ordered : (kindsOf (analyze b).bottlenecks).Sublist [.memory, .compilation, .optimization]
  mem_iff : ∀ k, k ∈ kindsOf (analyze b).bottlenecks ↔ Exceeds b k
  hasBottleneck_iff : ∀ k,
    (analyze b).hasBottleneck k = true ↔ k ∈ kindsOf (analyze b).bottlenecks
  recommendations_eq : (analyze b).recommendations =
    (analyze b).bottlenecks.map fun x => Recommendation.forKind x.kind
  attach : ∀ rs, (kindsOf (analyze b).bottlenecks).Sublist
    (kindsOf (analyze (b.attach rs)).bottlenecks)
  /-- No bottleneck goes away in a session, whether or not its collections succeed. -/
  afterActions : ∀ actions, (kindsOf (analyze b).bottlenecks).Sublist
    (kindsOf (analyze (Collect.afterActions b actions)).bottlenecks)

theorem partsAgree (b : Record) : PartsAgree b where
  metrics_eq := metrics_eq_ofSummary b
  counts := countOf_metrics b
  additive := metrics_append b
  total := by
    rw [metrics_eq_ofSummary]
    exact Query.StatusSummary.total_ofRemarks b.remarks
  nodup := nodup_kindsOf_bottlenecks b
  ordered := kindsOf_bottlenecks_sublist b
  mem_iff := fun _ => mem_kindsOf_bottlenecks
  hasBottleneck_iff := by
    intro k
    rw [Result.hasBottleneck_iff, kindsOf, List.mem_map]
  recommendations_eq := recommendations_of_nodup (nodup_kindsOf_bottlenecks b)
  attach := fun rs =>
    kindsOf_bottlenecks_sublist_of_exceeds fun _ hk => hk.of_extends (Record.extends_attach b rs)
  afterActions := fun actions =>
    kindsOf_bottlenecks_sublist_of_exceeds fun _ hk => hk.afterActions actions

end BuildRemarks.Analysis
