import BuildRemarks.Analysis.Analyze
import Mathlib.Data.List.Count
import Mathlib.Data.List.Nodup

/-!
# Recommendations

The kinds of the bottlenecks are noted one after the other, each unless it has been noted before.
At any point the noted kinds are those that have occurred so far, in the order in which they
occurred first, and only one list is that. There is one recommendation for each of them.
-/

namespace BuildRemarks.Analysis

def kindsOf (bs : List Bottleneck) : List BottleneckKind := bs.map (·.kind)

/-- The kinds of a list in the order in which they occur in it first. -/
structure InFirstOrder (ks firsts : List BottleneckKind) : Prop where
  mem_iff : ∀ k, k ∈ firsts ↔ k ∈ ks
  ascending : firsts.Pairwise fun j k => ks.idxOf j < ks.idxOf k

def note (noted : List BottleneckKind) (k : BottleneckKind) : List BottleneckKind :=
  if k ∈ noted then noted else noted ++ [k]

/-! ### The order of first occurrence -/

theorem idxOf_concat_lt {ks : List BottleneckKind} {j k : BottleneckKind} (hj : j ∈ ks)
    (hk : k ∉ ks) : (ks ++ [k]).idxOf j < (ks ++ [k]).idxOf k := by
  rw [List.idxOf_append_of_mem hj, List.idxOf_append_of_notMem hk]
  exact Nat.lt_add_right _ (List.idxOf_lt_length_of_mem hj)

namespace InFirstOrder

variable {ks firsts others : List BottleneckKind}

theorem nodup (h : InFirstOrder ks firsts) : firsts.Nodup :=
  h.ascending.imp fun {j k} hlt (heq : j = k) => absurd (heq ▸ hlt) (Nat.lt_irrefl (ks.idxOf j))

theorem unique (h : InFirstOrder ks firsts) (hother : InFirstOrder ks others) :
    firsts = others := by
  have hperm : firsts.Perm others := by
    refine (List.perm_ext_iff_of_nodup h.nodup hother.nodup).2 fun k => ?_
    rw [h.mem_iff, hother.mem_iff]
  refine hperm.eq_of_pairwise (fun j k _ _ hjk hkj => ?_) h.ascending hother.ascending
  exact absurd (Nat.lt_trans hjk hkj) (Nat.lt_irrefl _)

theorem of_nodup (h : ks.Nodup) : InFirstOrder ks ks where
  mem_iff := fun _ => Iff.rfl
  ascending := by
    rw [List.pairwise_iff_getElem]
    intro i j hi hj hij
    rwa [h.idxOf_getElem i hi, h.idxOf_getElem j hj]

theorem ascending_concat (h : InFirstOrder ks firsts) (k : BottleneckKind) :
    firsts.Pairwise fun i j => (ks ++ [k]).idxOf i < (ks ++ [k]).idxOf j := by
  refine h.ascending.imp_of_mem fun {i j} hi hj hlt => ?_
  have hi : i ∈ ks := (h.mem_iff i).1 hi
  have hj : j ∈ ks := (h.mem_iff j).1 hj
  rwa [List.idxOf_append_of_mem hi, List.idxOf_append_of_mem hj]

theorem concat (h : InFirstOrder ks firsts) (k : BottleneckKind) :
    InFirstOrder (ks ++ [k]) (note firsts k) := by
  rw [note]
  split
  case isTrue hnoted =>
    refine ⟨fun j => ?_, h.ascending_concat k⟩
    rw [h.mem_iff, List.mem_append, List.mem_singleton]
    exact ⟨Or.inl, fun hj => hj.elim id fun e => e ▸ (h.mem_iff k).1 hnoted⟩
  case isFalse hnew =>
    have hlast : ∀ j ∈ firsts, ∀ i ∈ [k], (ks ++ [k]).idxOf j < (ks ++ [k]).idxOf i := by
      intro j hj i hi
      rw [List.mem_singleton.1 hi]
      exact idxOf_concat_lt ((h.mem_iff j).1 hj) fun hk => hnew ((h.mem_iff k).2 hk)
    refine ⟨fun j => ?_, List.pairwise_append.2
      ⟨h.ascending_concat k, List.pairwise_singleton _ k, hlast⟩⟩
    rw [List.mem_append, List.mem_append, h.mem_iff]

theorem append (h : InFirstOrder ks firsts) (more : List BottleneckKind) :
    InFirstOrder (ks ++ more) (more.foldl note firsts) := by
  induction more generalizing ks firsts with
  | nil =>
    rw [List.append_nil]
    exact h
  | cons k more ih =>
    rw [List.append_cons]
    exact ih (h.concat k)

end InFirstOrder

/-! ### Noting all kinds -/

theorem foldl_note_eq {noted seen : List BottleneckKind} (h : ∀ k, k ∈ noted ↔ k ∈ seen)
    (ks : List BottleneckKind) : ks.foldl note noted = noted ++ distinctKinds seen ks := by
  induction ks generalizing noted seen with
  | nil => rw [List.foldl_nil, distinctKinds, List.append_nil]
  | cons k ks ih =>
    rw [List.foldl_cons, distinctKinds, note]
    by_cases hk : k ∈ noted
    · rw [if_pos hk, if_pos ((h k).1 hk), ih h]
    · -- the two lists hold the same kinds in different orders, so that only members can agree
      have hnext : ∀ j, j ∈ noted ++ [k] ↔ j ∈ k :: seen := by
        intro j
        rw [List.mem_append, List.mem_singleton, List.mem_cons, h, or_comm]
      rw [if_neg hk, if_neg fun hseen => hk ((h k).2 hseen), ih hnext, List.append_assoc]
      rfl

theorem distinctKinds_eq_foldl (ks : List BottleneckKind) :
    distinctKinds [] ks = ks.foldl note [] := by
  have hnone : ∀ k : BottleneckKind, k ∈ [] ↔ k ∈ [] := fun _ => Iff.rfl
  rw [foldl_note_eq hnone, List.nil_append]

theorem inFirstOrder_distinctKinds (ks : List BottleneckKind) :
    InFirstOrder ks (distinctKinds [] ks) := by
  rw [distinctKinds_eq_foldl]
  exact (InFirstOrder.of_nodup List.nodup_nil).append ks

example : distinctKinds [] [.optimization, .memory, .optimization] = [.optimization, .memory] := by
  decide

theorem distinctKinds_of_nodup {ks : List BottleneckKind} (h : ks.Nodup) :
    distinctKinds [] ks = ks :=
  (inFirstOrder_distinctKinds ks).unique (.of_nodup h)

theorem distinctKinds_concat (ks : List BottleneckKind) (k : BottleneckKind) :
    distinctKinds [] (ks ++ [k]) = note (distinctKinds [] ks) k := by
  rw [distinctKinds_eq_foldl, distinctKinds_eq_foldl, List.foldl_append]
  rfl

/-! ### One recommendation for each kind -/

theorem Recommendation.forKind_injective : Function.Injective Recommendation.forKind := by
  intro j k h
  have hcategory : (forKind j).category = (forKind k).category → j = k := by
    cases j <;> cases k <;> decide
  exact hcategory (congrArg category h)

theorem recommendations_of_nodup {bs : List Bottleneck} (h : (kindsOf bs).Nodup) :
    recommendations bs = bs.map fun b => Recommendation.forKind b.kind := by
  have hkinds : distinctKinds [] (bs.map (·.kind)) = bs.map (·.kind) := distinctKinds_of_nodup h
  rw [recommendations, hkinds, List.map_map]
  rfl

theorem recommendations_concat (bs : List Bottleneck) (b : Bottleneck) :
    recommendations (bs ++ [b]) =
      (note (distinctKinds [] (kindsOf bs)) b.kind).map Recommendation.forKind := by
  rw [recommendations, List.map_append, List.map_singleton, distinctKinds_concat]
  rfl

/-- What is recommended for bottlenecks: something for each of their kinds, once. -/
structure RecommendedByKind (bs : List Bottleneck) : Prop where
  /-- The recommendations are those for the kinds in the order of their first occurrence, which
  no other list is. -/
  eq_iff : ∀ rs, recommendations bs = rs ↔
    ∃ firsts, InFirstOrder (kindsOf bs) firsts ∧ rs = firsts.map Recommendation.forKind
  once : ∀ k, (recommendations bs).count (Recommendation.forKind k) =
    if k ∈ kindsOf bs then 1 else 0
  of_sameKinds : ∀ others, kindsOf others = kindsOf bs →
    recommendations others = recommendations bs
  append_of_mem : ∀ b : Bottleneck, b.kind ∈ kindsOf bs →
    recommendations (bs ++ [b]) = recommendations bs
  append_of_notMem : ∀ b : Bottleneck, b.kind ∉ kindsOf bs →
    recommendations (bs ++ [b]) = recommendations bs ++ [Recommendation.forKind b.kind]

theorem recommendedByKind (bs : List Bottleneck) : RecommendedByKind bs := by
  have hfirst : InFirstOrder (kindsOf bs) (distinctKinds [] (kindsOf bs)) :=
    inFirstOrder_distinctKinds _
  constructor
  case eq_iff =>
    intro rs
    constructor
    · rintro rfl
      exact ⟨_, hfirst, rfl⟩
    · rintro ⟨firsts, hfirsts, rfl⟩
      rw [hfirsts.unique hfirst]
      rfl
  case once =>
    intro k
    have hcount := List.count_map_of_injective (distinctKinds [] (kindsOf bs))
      Recommendation.forKind Recommendation.forKind_injective k
    rw [hfirst.nodup.count] at hcount
    simp only [hfirst.mem_iff] at hcount
    exact hcount
  case of_sameKinds =>
    intro others hkinds
    exact congrArg (fun ks => (distinctKinds [] ks).map Recommendation.forKind) hkinds
  case append_of_mem =>
    intro b hb
    rw [recommendations_concat, note, if_pos ((hfirst.mem_iff _).2 hb)]
    rfl
  case append_of_notMem =>
    intro b hb
    rw [recommendations_concat, note, if_neg fun h => hb ((hfirst.mem_iff _).1 h),
      List.map_append, List.map_singleton]
    rfl

end BuildRemarks.Analysis
