import BuildRemarks.Proofs.Kernel.Attribution

/-!
# Resuming a scan

A scan can be left and gone on with from its totals alone. The totals of the lines that follow
depend on nothing else. Their remarks depend on the kernel of the last heading, which is lost, and
on nothing else, so the first line that follows has to bring a heading with it.
-/

namespace BuildRemarks.Kernel

/-- There is no first line, or it has a heading. -/
def StartsWithHeading (lines : List (List Char)) : Prop :=
  ∀ line, lines.head? = some line → ∃ h, Heads h line

namespace Scan

variable {s t : Scan}

/-! ### Totals -/

theorem totals_feed_congr (h : s.totals = t.totals) (line : List Char) :
    (s.feed line).totals = (t.feed line).totals := by
  rw [totals_feed_eq, totals_feed_eq, h]

theorem totals_feedAll_congr (h : s.totals = t.totals) (lines : List (List Char)) :
    (s.feedAll lines).totals = (t.feedAll lines).totals := by
  induction lines generalizing s t with
  | nil => exact h
  | cons line lines ih => exact ih (totals_feed_congr h line)

/-! ### Remarks -/

theorem function_feed_congr (h : s.function = t.function) (line : List Char) :
    (s.feed line).function = (t.feed line).function := by
  rw [function_feed, function_feed, h]

theorem remarkOf_congr (h : s.function = t.function) (line : List Char) :
    s.remarkOf line = t.remarkOf line := by
  simp only [remarkOf, functionOf, locationOf, h]

theorem emitted_congr (h : s.function = t.function) (lines : List (List Char)) :
    s.emitted lines = t.emitted lines := by
  induction lines generalizing s t with
  | nil => rfl
  | cons line lines ih =>
    rw [emitted, emitted, remarkOf_congr h, ih (function_feed_congr h line)]

/-- In a line with a heading the kernel before it does not count. -/
theorem remarkOf_of_heads {g : Heading} {line : List Char} (h : Heads g line) (s t : Scan) :
    s.remarkOf line = t.remarkOf line := by
  have hsplit := splitHeading_eq_some_iff.2 h
  simp only [remarkOf, functionOf, locationOf, hsplit]

theorem function_feed_of_heads {g : Heading} {line : List Char} (h : Heads g line) (s : Scan) :
    (s.feed line).function = some g.kernelName := by
  rw [function_feed, splitHeading_eq_some_iff.2 h]
  rfl

/-- Lines that start with a heading have the same remarks in every scan. -/
theorem emitted_of_startsWithHeading {lines : List (List Char)} (h : StartsWithHeading lines)
    (s t : Scan) : s.emitted lines = t.emitted lines := by
  cases lines with
  | nil => rfl
  | cons line lines =>
    obtain ⟨g, hheads⟩ := h line rfl
    have hfunction : (s.feed line).function = (t.feed line).function := by
      rw [function_feed_of_heads hheads, function_feed_of_heads hheads]
    rw [emitted, emitted, remarkOf_of_heads hheads s t, emitted_congr hfunction]

theorem remarks_feedAll_start (xs : List (List Char)) :
    (start.feedAll xs).remarks = start.emitted xs := remarks_resume .none xs

theorem take_finish_feedAll (xs : List (List Char)) :
    (start.feedAll xs).finish.take xs.length = start.emitted xs := by
  rw [finish, remarks_feedAll_start]
  exact List.take_left' (length_emitted start xs)

theorem length_le_finish_feedAll (xs : List (List Char)) :
    xs.length ≤ (start.feedAll xs).finish.length := by
  rw [finish, List.length_append, remarks_feedAll_start, length_emitted]
  exact Nat.le_add_right _ _

end Scan

/-- A scan over all lines gives what two give of which the second goes on from the totals of the
first, but for the totals that the first is finished with. -/
theorem finish_of_resumed {xs ys : List (List Char)} (h : StartsWithHeading ys) :
    let first := Scan.start.feedAll xs
    let second := (Scan.resume first.totals).feedAll ys
    xs.length ≤ first.finish.length ∧
      (Scan.start.feedAll (xs ++ ys)).finish = first.finish.take xs.length ++ second.finish ∧
      (Scan.start.feedAll (xs ++ ys)).totals = second.totals := by
  intro first second
  have hthread : first.totals = (Scan.resume first.totals).totals := rfl
  have htotals : (first.feedAll ys).totals = second.totals :=
    Scan.totals_feedAll_congr hthread ys
  have hemitted : first.emitted ys = (Scan.resume first.totals).emitted ys :=
    Scan.emitted_of_startsWithHeading h _ _
  have hfirst : first.remarks = Scan.start.emitted xs := Scan.remarks_feedAll_start xs
  have hsecond : second.remarks = (Scan.resume first.totals).emitted ys :=
    Scan.remarks_resume first.totals ys
  rw [Scan.feedAll_append]
  refine ⟨Scan.length_le_finish_feedAll xs, ?_, htotals⟩
  rw [Scan.finish, Scan.remarks_feedAll, htotals, hemitted, ← hsecond, hfirst,
    Scan.take_finish_feedAll, List.append_assoc]
  rfl

/-- The second scan has a heading with a pass tag behind it, then a line without a heading that
gives a metric of the first scan a new value. -/
theorem finish_of_resumed_headless :
    let xs := ["k.c:7:2: in artificial function 'k', DirectCalls = 2".toList]
    let ys := ["k.c:9:0: in artificial function 'g', NumStackBytes = 1 [-Rpass=kernel-info]".toList,
      "DirectCalls = 3".toList]
    let first := Scan.start.feedAll xs
    let second := (Scan.resume first.totals).feedAll ys
    StartsWithHeading ys ∧ xs.length ≤ first.finish.length ∧
      (Scan.start.feedAll (xs ++ ys)).finish = first.finish.take xs.length ++ second.finish ∧
      (Scan.start.feedAll (xs ++ ys)).totals = second.totals := by
  intro xs ys first second
  have hstart : StartsWithHeading ys := by
    intro line hline
    obtain rfl := Option.some.inj hline
    exact ⟨⟨"k.c".toList, "9".toList, "0".toList, "g".toList⟩,
      splitHeading_eq_some_iff.1 rfl⟩
  exact ⟨hstart, finish_of_resumed hstart⟩

end BuildRemarks.Kernel
