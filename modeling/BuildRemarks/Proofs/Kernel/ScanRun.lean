import BuildRemarks.Kernel.Scan
import BuildRemarks.Proofs.Kernel.Headings
import BuildRemarks.Proofs.Kernel.Described
import BuildRemarks.Proofs.Kernel.TagEndings

/-!
# Runs of a scan

What a whole run over lines gives, from any totals on: which kernel each remark belongs to,
where the run stands behind the last line, and what the totals have become. One step is the
step of `Scan.feed`; the statements about runs follow by induction on the lines.
-/

namespace BuildRemarks.Kernel

/-- The line, without its pass tag, opens with the heading. -/
def Heads (h : Heading) (line : List Char) : Prop :=
  ∃ body rest, Untagged line body ∧ h.Opens body rest

/-- The line at `j` is the last of those up to `i` that have a heading. -/
structure LatestHeading (lines : List (List Char)) (i j : Nat) (h : Heading) : Prop where
  le : j ≤ i
  heads : ∃ line, lines[j]? = some line ∧ Heads h line
  latest : ∀ k, j < k → k ≤ i → ∀ line, lines[k]? = some line → ∀ h', ¬ Heads h' line

/-- No line up to the one at `i` has a heading. -/
def NoHeading (lines : List (List Char)) (i : Nat) : Prop :=
  ∀ k ≤ i, ∀ line, lines[k]? = some line → ∀ h, ¬ Heads h line

theorem heads_iff {h : Heading} {line : List Char} :
    Heads h line ↔ ∃ rest, h.Opens (withoutPassTag line) rest := by
  constructor
  · rintro ⟨body, rest, hbody, hopens⟩
    obtain rfl := untagged_iff.1 hbody
    exact ⟨rest, hopens⟩
  · rintro ⟨rest, hopens⟩
    exact ⟨withoutPassTag line, rest, untagged_iff.2 rfl, hopens⟩

theorem splitHeading_eq_some_iff {line : List Char} {h : Heading} :
    (splitHeading line).1 = some h ↔ Heads h line := by
  simp only [splitHeading, heads_iff, ← Heading.read?_eq_some_iff]
  cases hread : Heading.read? (withoutPassTag line) with
  | none => simp
  | some found =>
    obtain ⟨g, rest⟩ := found
    simp

theorem splitHeading_eq_none_iff {line : List Char} :
    (splitHeading line).1 = none ↔ ∀ h, ¬ Heads h line := by
  rw [Option.eq_none_iff_forall_ne_some]
  exact forall_congr' fun h => not_congr splitHeading_eq_some_iff

/-! ### The last heading of a stretch of lines -/

/-- The heading of the last line that has one. -/
def lastHeading? (lines : List (List Char)) : Option Heading :=
  (lines.filterMap fun line => (splitHeading line).1).getLast?

theorem lastHeading?_append (xs ys : List (List Char)) :
    lastHeading? (xs ++ ys) = (lastHeading? ys).or (lastHeading? xs) := by
  rw [lastHeading?, List.filterMap_append, List.getLast?_append]
  rfl

theorem lastHeading?_cons (line : List Char) (lines : List (List Char)) :
    lastHeading? (line :: lines) = (lastHeading? lines).or (splitHeading line).1 := by
  have hone : lastHeading? [line] = (splitHeading line).1 := by
    rw [lastHeading?, List.filterMap_cons]
    cases (splitHeading line).1 <;> rfl
  rw [← List.singleton_append, lastHeading?_append, hone]

theorem lastHeading?_eq_none {lines : List (List Char)}
    (h : ∀ line ∈ lines, (splitHeading line).1 = none) : lastHeading? lines = none := by
  rw [lastHeading?, List.filterMap_eq_nil_iff.2 h]
  rfl

theorem NoHeading.lastHeading? {lines : List (List Char)} {i : Nat}
    (h : NoHeading lines i) : lastHeading? (lines.take (i + 1)) = none := by
  refine lastHeading?_eq_none fun line hline => ?_
  obtain ⟨k, hk, hget⟩ := List.mem_take_iff_getElem.1 hline
  have hsome : lines[k]? = some line := List.getElem?_eq_some_iff.2 ⟨by omega, hget⟩
  exact splitHeading_eq_none_iff.2 (h k (by omega) line hsome)

theorem LatestHeading.lastHeading? {lines : List (List Char)} {i j : Nat} {h : Heading}
    (hl : LatestHeading lines i j h) : lastHeading? (lines.take (i + 1)) = some h := by
  obtain ⟨line, hget, hheads⟩ := hl.heads
  obtain ⟨hj, hline⟩ := List.getElem?_eq_some_iff.1 hget
  have hle := hl.le
  have hsplit : lines.take (i + 1) =
      lines.take j ++ line :: (lines.drop (j + 1)).take (i - j) := by
    have hdrop : lines.drop j = line :: lines.drop (j + 1) := by
      rw [List.drop_eq_getElem_cons hj, hline]
    have hsum : i + 1 = j + (i - j + 1) := by omega
    rw [hsum, List.take_add, hdrop, List.take_succ_cons]
  have hrest : Kernel.lastHeading? ((lines.drop (j + 1)).take (i - j)) = none := by
    refine lastHeading?_eq_none fun other hmem => ?_
    obtain ⟨k, hk, hother⟩ := List.mem_take_iff_getElem.1 hmem
    rw [List.length_drop] at hk
    rw [List.getElem_drop] at hother
    have hsome : lines[j + 1 + k]? = some other :=
      List.getElem?_eq_some_iff.2 ⟨by omega, hother⟩
    exact splitHeading_eq_none_iff.2 (hl.latest (j + 1 + k) (by omega) (by omega) other hsome)
  rw [hsplit, lastHeading?_append, lastHeading?_cons, hrest,
    splitHeading_eq_some_iff.2 hheads]
  rfl

/-- A remark of a scan describes what its message says. -/
structure SaysMessage (r : Remark) : Prop where
  kind : r.kind = .kernel
  pass : r.pass = .kernelInfo
  status : r.status = .analysis
  kernel : r.kernel = (Sentence.ofText? r.message.toList).map Sentence.describe

/-- The metrics that the descriptor of a remark holds. -/
def metricsOf (r : Remark) : List (String × UInt64) :=
  match r.kernel with
  | some d => d.metrics.entries
  | none => []

namespace Scan

/-! ### One line, many lines -/

theorem function_feed (s : Scan) (line : List Char) :
    (s.feed line).function =
      ((splitHeading line).1.map Heading.kernelName).or s.function := by
  show s.functionOf (splitHeading line).1 = _
  cases (splitHeading line).1 <;> rfl

theorem function_feedAll (s : Scan) (lines : List (List Char)) :
    (s.feedAll lines).function =
      ((lastHeading? lines).map Heading.kernelName).or s.function := by
  induction lines generalizing s with
  | nil => rfl
  | cons line lines ih =>
    rw [feedAll_cons, ih, function_feed, lastHeading?_cons]
    cases lastHeading? lines <;> rfl

/-- The remarks of lines that are scanned one after the other. -/
def emitted : Scan → List (List Char) → List Remark
  | _, [] => []
  | s, line :: lines => s.remarkOf line :: emitted (s.feed line) lines

theorem remarks_feedAll (s : Scan) (lines : List (List Char)) :
    (s.feedAll lines).remarks = s.remarks ++ s.emitted lines := by
  induction lines generalizing s with
  | nil => exact (List.append_nil s.remarks).symm
  | cons line lines ih =>
    rw [feedAll_cons, ih, remarks_feed, emitted, List.append_assoc, List.singleton_append]

theorem length_emitted (s : Scan) (lines : List (List Char)) :
    (s.emitted lines).length = lines.length := by
  induction lines generalizing s with
  | nil => rfl
  | cons line lines ih => rw [emitted, List.length_cons, List.length_cons, ih]

/-- The remark of a line is made by the scan that has taken in the lines before it. -/
theorem getElem?_emitted (s : Scan) (lines : List (List Char)) (i : Nat) :
    (s.emitted lines)[i]? = lines[i]?.map (s.feedAll (lines.take i)).remarkOf := by
  induction lines generalizing s i with
  | nil => rfl
  | cons line lines ih =>
    cases i with
    | zero => rfl
    | succ i =>
      rw [emitted, List.getElem?_cons_succ, ih, List.getElem?_cons_succ, List.take_succ_cons,
        feedAll_cons]

/-! ### Descriptors and totals -/

theorem saysMessage_remarkOf (s : Scan) (line : List Char) : SaysMessage (s.remarkOf line) where
  kind := rfl
  pass := rfl
  status := rfl
  kernel := by
    show _ = (Sentence.ofText? (String.ofList _).toList).map Sentence.describe
    rw [String.toList_ofList]
    rfl

theorem saysMessage_of_mem_emitted {s : Scan} {lines : List (List Char)} {r : Remark}
    (h : r ∈ s.emitted lines) : SaysMessage r := by
  induction lines generalizing s with
  | nil => exact absurd h List.not_mem_nil
  | cons line lines ih =>
    rcases List.mem_cons.1 h with rfl | h
    · exact saysMessage_remarkOf s line
    · exact ih h

theorem kernel_remarkOf (s : Scan) (line : List Char) :
    (s.remarkOf line).kernel =
      (Sentence.ofText? (messageOf (splitHeading line).2)).map Sentence.describe := rfl

theorem totals_feed_eq (s : Scan) (line : List Char) :
    (s.feed line).totals =
      (metricOf? line).elim s.totals fun e => s.totals.record e.1 e.2 := by
  rw [feed]
  cases metricOf? line <;> rfl

theorem totals_feed (s : Scan) (line : List Char) :
    (s.feed line).totals.metrics = s.totals.metrics.insertAll (metricsOf (s.remarkOf line)) := by
  rw [totals_feed_eq, metricOf?, metricsOf, kernel_remarkOf]
  cases Sentence.ofText? (messageOf (splitHeading line).2) with
  | none => rfl
  | some sentence =>
    simp only [Option.bind_some, Option.map_some, Sentence.metrics_describe]
    cases sentence <;> rfl

theorem totals_feedAll (s : Scan) (lines : List (List Char)) :
    (s.feedAll lines).totals.metrics =
      (s.emitted lines).foldl (fun m r => m.insertAll (metricsOf r)) s.totals.metrics := by
  induction lines generalizing s with
  | nil => rfl
  | cons line lines ih => rw [feedAll_cons, ih, totals_feed, emitted, List.foldl_cons]

end Scan

end BuildRemarks.Kernel
