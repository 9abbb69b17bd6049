import BuildRemarks.Proofs.Kernel.Consistency

/-!
# Descriptors that come about

A descriptor comes about from nothing, from a line that is scanned, by a metric or an attribute,
or by merging two that have come about, in whatever order and grouping. All of them are
consistent: the descriptor of a sentence is, and every operation keeps it so.
-/

namespace BuildRemarks.Kernel

inductive Descriptor.Reachable : Descriptor → Prop where
  | blank : Reachable .blank
  | line {s : Scan} {line : List Char} {d : Descriptor}
    (h : (s.remarkOf line).kernel = some d) : Reachable d
  | metric {d : Descriptor} (h : Reachable d) (name : String) (value : UInt64) :
    Reachable (d.applyMetric name value)
  | attr {d : Descriptor} (h : Reachable d) (name value : String) :
    Reachable (d.applyAttribute name value)
  | merge {d later : Descriptor} (h : Reachable d) (hlater : Reachable later) :
    Reachable (d.merge later)

namespace Sentence

/-! ### Sentences that give no metric -/

theorem length_callees_describe (s : Sentence) :
    s.describe.callees.length = if s.counter? = some .directCalls then 1 else 0 := by
  rw [callees_describe]
  cases s <;> rfl

theorem length_memoryAccesses_describe_le (s : Sentence) :
    s.describe.memoryAccesses.length ≤ if s.counter? = some .flatAccesses then 1 else 0 := by
  cases s with
  | metric name value =>
    rw [describe, Descriptor.memoryAccesses_applyMetric]
    exact Nat.zero_le _
  | attr name value =>
    rw [describe, Descriptor.memoryAccesses_applyAttribute]
    exact Nat.zero_le _
  | indirectCall callee => cases callee <;> exact Nat.zero_le _
  | directCall callee => exact Nat.zero_le _
  | access instruction viaCall operand space =>
    have hone : (describeAccess instruction viaCall operand space).memoryAccesses.length ≤ 1 := by
      rw [describeAccess]
      split
      · exact Nat.le_refl 1
      · exact Nat.zero_le 1
    exact hone

/-- The attributes that calls and accesses leave are not the target. -/
theorem targetNamed_describe_of_none {s : Sentence} (h : s.metric? = none)
    (hattr : ∀ name value, s ≠ attr name value) : s.describe.TargetNamed := by
  have hcallee : "indirect_callee".toLower ≠ "target" := toLower_ne (by decide)
  have hspace : "access_address_space".toLower ≠ "target" := toLower_ne (by decide)
  have hinstruction : "access_instruction".toLower ≠ "target" := toLower_ne (by decide)
  have hother {name other : String} (hother : other.toLower ≠ "target")
      (hname : name.toLower = "target") : ¬ name = other := fun e => hother (e ▸ hname)
  cases s with
  | metric name value => exact absurd h (by simp [metric?])
  | attr name value => exact absurd rfl (hattr name value)
  | indirectCall callee =>
    cases callee with
    | none => exact Or.inl ⟨fun _ _ => rfl, rfl⟩
    | some callee =>
      refine Or.inl ⟨fun name hname => ?_, rfl⟩
      show (NameMap.empty.insert "indirect_callee" callee).get? name = none
      rw [NameMap.get?_singleton, if_neg (hother hcallee hname)]
  | directCall callee => exact Or.inl ⟨fun _ _ => rfl, rfl⟩
  | access instruction viaCall operand space =>
    rw [describe, describeAccess]
    split
    · exact Or.inl ⟨fun _ _ => rfl, rfl⟩
    · refine Or.inl ⟨fun name hname => ?_, rfl⟩
      show ((NameMap.empty.insert "access_instruction" instruction).insert
        "access_address_space" space).get? name = none
      rw [NameMap.get?_insert, NameMap.get?_singleton, if_neg (hother hspace hname),
        if_neg (hother hinstruction hname)]

theorem coherent_describe_of_none {s : Sentence} (h : s.metric? = none)
    (hattr : ∀ name value, s ≠ attr name value) : s.describe.Coherent where
  shows_metric g hg := by
    have hcounter : ¬ s.counter? = some g := fun hc => counterName?_ne_none hc hg
    rw [reading_describe_of_none h, if_neg hcounter]
    exact Or.inl ⟨fun _ _ => by rw [metrics_describe_of_none h]; rfl, rfl⟩
  ge_metric g counter _ := by
    have hzero : s.describe.metricValue counter = 0 := by
      rw [Descriptor.metricValue, metrics_describe_of_none h]
      rfl
    rw [hzero]
    exact Nat.le_trans (Nat.min_le_left 0 g.limit) (Nat.zero_le _)
  directCalls_counted _ := by
    have hlimit : UInt32.size - 1 = 4294967295 := rfl
    rw [reading_describe_of_none h, length_callees_describe, hlimit]
    split <;> omega
  flatAccesses_counted _ := by
    rw [reading_describe_of_none h]
    exact Nat.le_trans (Nat.min_le_left _ _) (length_memoryAccesses_describe_le s)
  target := targetNamed_describe_of_none h hattr
  basicBlocks := basicBlocks_describe s

theorem coherent_describe (s : Sentence) : s.describe.Coherent := by
  cases s with
  | metric name value => exact Descriptor.coherent_blank.applyMetric name value
  | attr name value => exact Descriptor.coherent_blank.applyAttribute name value
  | indirectCall _ | directCall _ | access _ _ _ _ =>
    exact coherent_describe_of_none rfl fun _ _ => by simp

end Sentence

theorem Scan.coherent_remarkOf {s : Scan} {line : List Char} {d : Descriptor}
    (h : (s.remarkOf line).kernel = some d) : d.Coherent := by
  rw [(saysMessage_remarkOf s line).kernel, Option.map_eq_some_iff] at h
  obtain ⟨sentence, -, rfl⟩ := h
  exact sentence.coherent_describe

theorem Descriptor.Reachable.coherent {d : Descriptor} (h : d.Reachable) : d.Coherent := by
  induction h with
  | blank => exact coherent_blank
  | line h => exact Scan.coherent_remarkOf h
  | metric _ name value ih => exact ih.applyMetric name value
  | attr _ name value ih => exact ih.applyAttribute name value
  | merge _ _ ih ihlater => exact ih.merge ihlater

/-- What a descriptor shows agrees with what it holds, however it has come about. -/
theorem consistent_of_reachable {d : Descriptor} (h : d.Reachable) : d.Consistent :=
  h.coherent.consistent

/-- Two limits of threads and a call, merged from the right. -/
def mergedFromLines : Descriptor :=
  (Sentence.metric "omp_target_thread_limit" 7).describe.merge
    ((Sentence.metric "ThreadLimit" 5).describe.merge (Sentence.directCall "g").describe)

theorem consistent_mergedFromLines :
    mergedFromLines.Reachable ∧ mergedFromLines.Consistent := by
  have hfirst : (Scan.start.remarkOf "omp_target_thread_limit = 7".toList).kernel =
      some (Sentence.metric "omp_target_thread_limit" 7).describe := by decide
  have hsecond : (Scan.start.remarkOf "ThreadLimit = 5".toList).kernel =
      some (Sentence.metric "ThreadLimit" 5).describe := by decide
  have hcall : (Scan.start.remarkOf "direct call, callee is 'g'".toList).kernel =
      some (Sentence.directCall "g").describe := by decide
  have hmerged : mergedFromLines.Reachable :=
    .merge (.line hfirst) (.merge (.line hsecond) (.line hcall))
  exact ⟨hmerged, consistent_of_reachable hmerged⟩

end BuildRemarks.Kernel
