import BuildRemarks.Proofs.Kernel.ScanRun

/-!
# What a scan reports

A scan that goes on from any totals over any lines gives one remark for each line, belonging
to the kernel of the latest heading so far, and its totals are the earlier ones with the
metrics of these remarks over them. Finished, it adds one remark for each total.
-/

namespace BuildRemarks.Kernel

/-- The place of a remark whose own line has the heading: line and column are known exactly
if their digits are ASCII and denote numbers of 32 bits. -/
structure PlacedAt (h : Heading) (place : Location) : Prop where
  file : place.file = some (.ofList h.file)
  line : ∀ n, place.line = some n ↔
    (∀ c ∈ h.line, c.isDigit = true) ∧ Text.digitsValue h.line = n.toNat
  column : ∀ n, place.column = some n ↔
    (∀ c ∈ h.column, c.isDigit = true) ∧ Text.digitsValue h.column = n.toNat
  function : place.function = some (.ofList h.function)
  region : place.region = none

/-- What is reported of the line at `i` as the remark `r`. -/
structure Attributed (lines : List (List Char)) (i : Nat) (r : Remark) : Prop where
  nowhere : NoHeading lines i → r.function = "" ∧ r.location = none
  here : ∀ h, LatestHeading lines i i h →
    r.function = .ofList h.function ∧ ∃ place, r.location = some place ∧ PlacedAt h place
  inherited : ∀ j h, LatestHeading lines i j h → j < i →
    r.function = .ofList h.function ∧
      r.location = some { function := some (.ofList h.function) }

/-- What a scan from the totals `a` over `lines` has come to. -/
structure Reports (a : Totals) (lines : List (List Char)) (s : Scan) : Prop where
  one_each : s.remarks.length = lines.length
  classes : ∀ r ∈ s.remarks, r.kind = .kernel ∧ r.pass = .kernelInfo ∧ r.status = .analysis
  attributed : ∀ i r, s.remarks[i]? = some r → Attributed lines i r
  no_function : (∀ line ∈ lines, ∀ h, ¬ Heads h line) → s.function = none
  function : ∀ j h, LatestHeading lines (lines.length - 1) j h →
    s.function = some (.ofList h.function)
  totals : s.totals.metrics =
    s.remarks.foldl (fun m r => m.insertAll (metricsOf r)) a.metrics
  finish : s.finish = s.remarks ++ s.totals.metrics.entries.map fun e =>
    { Remark.plain .metric .kernelInfo .analysis e.1 with
      metadata := NameMap.empty.insert "value" (.word e.2) }
  ascending : (s.totals.metrics.entries.map (·.1)).Pairwise (· < ·)

/-! ### Places -/

theorem Heading.Opens.placedAt {h : Heading} {cs rest : List Char} (ho : h.Opens cs rest) :
    PlacedAt h h.location where
  file := rfl
  line _ := Text.readUInt32?_eq_some_iff ho.line_ne_nil ho.line_digits
  column _ := Text.readUInt32?_eq_some_iff ho.column_ne_nil ho.column_digits
  function := rfl
  region := rfl

namespace Scan

theorem function_remarkOf (s : Scan) (line : List Char) :
    (s.remarkOf line).function = (s.feed line).function.getD "" := rfl

theorem location_remarkOf (s : Scan) (line : List Char) :
    (s.remarkOf line).location = s.locationOf (splitHeading line).1 := rfl

variable {a : Totals} {lines : List (List Char)} {i : Nat} {r : Remark}

theorem remarks_resume (a : Totals) (lines : List (List Char)) :
    ((resume a).feedAll lines).remarks = (resume a).emitted lines := by
  rw [remarks_feedAll]
  rfl

/-- The remark at `i` has the function of the last heading among the lines up to `i`. -/
theorem function_of_getElem?_emitted (h : ((resume a).emitted lines)[i]? = some r) :
    r.function = ((lastHeading? (lines.take (i + 1))).map Heading.kernelName).getD "" := by
  rw [getElem?_emitted, Option.map_eq_some_iff] at h
  obtain ⟨line, hline, rfl⟩ := h
  have htake : lines.take (i + 1) = lines.take i ++ [line] := by
    rw [List.take_add_one, hline]
    rfl
  have hfeed : ((resume a).feedAll (lines.take i)).feed line =
      (resume a).feedAll (lines.take (i + 1)) := by
    rw [htake, feedAll_append]
    rfl
  rw [function_remarkOf, hfeed, function_feedAll]
  exact congrArg (·.getD "") (Option.or_none)

theorem location_of_latest_here {h : Heading}
    (hr : ((resume a).emitted lines)[i]? = some r) (hl : LatestHeading lines i i h) :
    r.location = some h.location ∧ PlacedAt h h.location := by
  obtain ⟨line, hline, hheads⟩ := hl.heads
  rw [getElem?_emitted, hline, Option.map_some, Option.some.injEq] at hr
  have hsplit := splitHeading_eq_some_iff.2 hheads
  obtain ⟨body, rest, -, hopens⟩ := hheads
  refine ⟨?_, hopens.placedAt⟩
  rw [← hr, location_remarkOf, hsplit]
  rfl

theorem location_of_no_heading {line : List Char}
    (hr : ((resume a).emitted lines)[i]? = some r) (hline : lines[i]? = some line)
    (hno : (splitHeading line).1 = none) :
    r.location = (lastHeading? (lines.take i)).map fun h => .inFunction h.kernelName := by
  rw [getElem?_emitted, hline, Option.map_some, Option.some.injEq] at hr
  rw [← hr, location_remarkOf, hno]
  show ((resume a).feedAll (lines.take i)).function.map Location.inFunction = _
  rw [function_feedAll]
  cases lastHeading? (lines.take i) <;> rfl

theorem attributed_of_getElem?_emitted (hr : ((resume a).emitted lines)[i]? = some r) :
    Attributed lines i r := by
  have hfunction := function_of_getElem?_emitted hr
  obtain ⟨line, hline⟩ : ∃ line, lines[i]? = some line := by
    rw [getElem?_emitted, Option.map_eq_some_iff] at hr
    exact ⟨hr.choose, hr.choose_spec.1⟩
  -- a line without a heading leaves the last heading what it was
  have hkeep (hno : (splitHeading line).1 = none) :
      lastHeading? (lines.take i) = lastHeading? (lines.take (i + 1)) := by
    rw [List.take_add_one, hline, lastHeading?_append]
    show _ = (lastHeading? [line]).or _
    rw [lastHeading?_cons, hno]
    rfl
  refine ⟨fun hno => ?_, fun h hl => ?_, fun j h hl hlt => ?_⟩
  · have hnone := splitHeading_eq_none_iff.2 (hno i (Nat.le_refl i) line hline)
    rw [hno.lastHeading?] at hfunction
    refine ⟨hfunction, ?_⟩
    rw [location_of_no_heading hr hline hnone, hkeep hnone, hno.lastHeading?]
    rfl
  · rw [hl.lastHeading?] at hfunction
    exact ⟨hfunction, h.location, location_of_latest_here hr hl⟩
  · have hnone := splitHeading_eq_none_iff.2 (hl.latest i hlt (Nat.le_refl i) line hline)
    rw [hl.lastHeading?] at hfunction
    refine ⟨hfunction, ?_⟩
    rw [location_of_no_heading hr hline hnone, hkeep hnone, hl.lastHeading?]
    rfl

end Scan

theorem reports_feedAll_resume (a : Totals) (lines : List (List Char)) :
    Reports a lines ((Scan.resume a).feedAll lines) where
  one_each := by rw [Scan.remarks_resume, Scan.length_emitted]
  classes r hr := by
    rw [Scan.remarks_resume] at hr
    have h := Scan.saysMessage_of_mem_emitted hr
    exact ⟨h.kind, h.pass, h.status⟩
  attributed i r hr := by
    rw [Scan.remarks_resume] at hr
    exact Scan.attributed_of_getElem?_emitted hr
  no_function hno := by
    have hnone := lastHeading?_eq_none fun line hline =>
      splitHeading_eq_none_iff.2 (hno line hline)
    rw [Scan.function_feedAll, hnone]
    rfl
  function j h hl := by
    obtain ⟨line, hline, -⟩ := hl.heads
    have hj : j < lines.length := (List.getElem?_eq_some_iff.1 hline).1
    -- there is a heading, so there is a line
    have hall : lines.take (lines.length - 1 + 1) = lines :=
      List.take_of_length_le (by omega)
    have hlast := hl.lastHeading?
    rw [hall] at hlast
    rw [Scan.function_feedAll, hlast]
    rfl
  totals := by
    rw [Scan.totals_feedAll, Scan.remarks_resume]
    rfl
  finish := rfl
  ascending := List.pairwise_map.2 ((Scan.resume a).feedAll lines).totals.metrics.ascending

/-- The pass tag of the second line takes the end of a heading with it, so the line belongs to the
kernel of the first. -/
theorem reports_feedAll_hiddenHeading :
    let a := (Totals.none.record "DirectCalls" 9).record "AllocasCount" 4
    let lines := [
      "k.c:7:2: in artificial function 'k', NumStackBytes = 5 [-Rpass=kernel-info]".toList,
      "k.c:1:0: in artificial function 'f [x']".toList,
      "DirectCalls = 3".toList]
    let s := (Scan.resume a).feedAll lines
    Reports a lines s ∧
      LatestHeading lines 2 0 ⟨"k.c".toList, "7".toList, "2".toList, "k".toList⟩ ∧
      s.remarks.map (·.function) = ["k", "k", "k"] ∧ s.function = some "k" ∧
      s.totals.metrics.entries =
        [("AllocasCount", 4), ("DirectCalls", 3), ("NumStackBytes", 5)] := by
  intro a lines s
  have hlatest : LatestHeading lines 2 0
      ⟨"k.c".toList, "7".toList, "2".toList, "k".toList⟩ := by
    refine ⟨Nat.zero_le 2, ⟨_, rfl, splitHeading_eq_some_iff.1 (by rfl)⟩, ?_⟩
    intro k hk hle line hline
    obtain rfl | rfl : k = 1 ∨ k = 2 := by omega
    all_goals
      obtain rfl := Option.some.inj hline
      exact splitHeading_eq_none_iff.1 (by rfl)
  exact ⟨reports_feedAll_resume a lines, hlatest, by decide, by decide, by decide⟩

end BuildRemarks.Kernel
