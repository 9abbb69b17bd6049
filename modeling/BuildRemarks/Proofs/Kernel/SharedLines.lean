import BuildRemarks.Proofs.Kernel.ScanRun
import BuildRemarks.Proofs.Printed.AcceptedLine
import BuildRemarks.Proofs.Text.Encoding

/-!
# Lines that two grammars read

A printed remark with a tag is a line about a kernel as well. There the tag begins at the first
opening bracket that is not closed before the end of the line, and a printed tag begins no
earlier than that. Hence the two tags are the same unless an unclosed bracket stands before the
printed one.
-/

namespace BuildRemarks.Kernel

open Printed (Form Line Noted endText noted_withText parseLine? tagText)

/-! ### The tag of a line -/

/-- A printed tag is the tag of its line unless a bracket before it is left open. -/
theorem passTagOf_tagText {front tag : List Char} (hfront : ¬ Unclosed front) (hne : tag ≠ [])
    (hclose : ']' ∉ tag) : passTagOf (front ++ tagText tag) = some tag := by
  have hspace : ¬ Unclosed (front ++ [' ']) :=
    mt (unclosed_append_singleton_iff (by decide) (by decide) front).1 hfront
  have htext : front ++ tagText tag = front ++ [' '] ++ '[' :: (tag ++ [']']) := by
    rw [List.append_assoc]
    rfl
  rw [htext]
  exact passTagOf_eq_some_iff.2 ⟨_, rfl, hspace, hne, hclose⟩

/-- A printed tag is the end of the tag that the line has as one about a kernel. -/
theorem exists_passTagOf_tagText (front : List Char) {tag : List Char} (hne : tag ≠ [])
    (hclose : ']' ∉ tag) :
    ∃ found, passTagOf (front ++ tagText tag) = some found ∧ tag <:+ found ∧
      (found = tag ↔ ¬ Unclosed front) := by
  by_cases hfront : Unclosed front
  · obtain ⟨before, inside, rfl, hinside, hbefore⟩ := hfront.exists_first
    have htext : before ++ '[' :: inside ++ tagText tag =
        before ++ '[' :: (inside ++ " [".toList ++ tag ++ [']']) := by
      simp only [tagText, List.append_assoc, List.cons_append]
    have hclosed : ']' ∉ inside ++ " [".toList ++ tag := by
      simp [hinside, hclose]
    have hfound : passTagOf (before ++ '[' :: inside ++ tagText tag) =
        some (inside ++ " [".toList ++ tag) := by
      rw [htext]
      exact passTagOf_eq_some_iff.2 ⟨before, rfl, hbefore, by simp, hclosed⟩
    have hlonger : inside ++ " [".toList ++ tag ≠ tag := by
      intro heq
      have hlength := congrArg List.length heq
      simp only [List.length_append, show " [".toList.length = 2 from rfl] at hlength
      omega
    exact ⟨_, hfound, List.suffix_append _ _, iff_of_false hlonger (not_not_intro hfront)⟩
  · exact ⟨tag, passTagOf_tagText hfront hne hclose, List.suffix_rfl, iff_of_true rfl hfront⟩

theorem exists_front_of_parseLine? {cs : List Char} {r : Remark} {tag : String}
    (h : parseLine? cs = some r) (htag : r.metadata.get? "tag" = some (.string tag)) :
    tag.toList ≠ [] ∧ ']' ∉ tag.toList ∧
      ∃ front, cs = remarkMark.toList ++ (front ++ tagText tag.toList) := by
  simp only [parseLine?, bind, Option.bind_eq_some_iff] at h
  obtain ⟨l, hread, form, hform, r₀, hremark, h⟩ := h
  obtain ⟨hproper, line, column, -, -, htext⟩ := Line.exists_of_read? hread
  have hmade := Form.made_of_remark? hremark
  split at h
  · cases h
    exact absurd (hmade.untagged.symm.trans htag) (by simp)
  · rename_i found hfound
    cases h
    have hgives := (hmade.gives_tagged hfound).tag
    rw [hfound, Option.map_some] at hgives
    have hvalue := Option.some.inj (htag.symm.trans hgives)
    obtain rfl : tag = .ofList found := by injection hvalue
    obtain ⟨hne, hclose⟩ := hproper.tag found hfound
    rw [String.toList_ofList]
    have hfront : l.file ++ ':' :: (line ++ ':' :: (column ++ ':' :: (' ' :: (l.message ++
        endText l.tag)))) = l.file ++ ':' :: (line ++ ':' :: (column ++ ':' :: (' ' ::
          l.message))) ++ tagText found := by
      simp only [hfound, endText, List.append_assoc, List.cons_append]
    exact ⟨hne, hclose, _, htext.trans (congrArg (remarkMark.toList ++ ·) hfront)⟩

/-! ### The remarks of a line in a stream -/

def kernelCount (remarks : List Remark) : Nat := remarks.countP fun r => r.kind = .kernel

/-- The scan takes the line in. -/
def isKernelLine (line : String) : Bool := (kernelLine? line.toList).isSome

/-- Among the remarks of a stream, those of a line stand behind the kernel remarks of the lines
before it and before those of the lines behind it. -/
def OwnRemarks (before after : List String) (own remarks : List Remark) : Prop :=
  ∃ earlier later, remarks = earlier ++ own ++ later ∧
    kernelCount earlier = before.countP isKernelLine ∧
    kernelCount later = after.countP isKernelLine

theorem kernelCount_append (xs ys : List Remark) :
    kernelCount (xs ++ ys) = kernelCount xs + kernelCount ys := List.countP_append

theorem kernelCount_totals (totals : Totals) : kernelCount totals.remarks = 0 := by
  rw [kernelCount, List.countP_eq_zero]
  intro r hr
  obtain ⟨entry, -, rfl⟩ := List.mem_map.1 hr
  have hkind : (Totals.remark entry.1 entry.2).kind = .metric := rfl
  rw [hkind]
  decide

theorem kernelCount_emitted (s : Scan) (lines : List (List Char)) :
    kernelCount (s.emitted lines) = lines.length := by
  rw [← s.length_emitted lines, kernelCount, List.countP_eq_length]
  intro r hr
  exact decide_eq_true (Scan.saysMessage_of_mem_emitted hr).kind

theorem length_kernelLines (lines : List String) :
    (lines.filterMap fun line => kernelLine? line.toList).length = lines.countP isKernelLine :=
  List.length_filterMap_eq_countP

theorem Scan.emitted_append (s : Scan) (xs ys : List (List Char)) :
    s.emitted (xs ++ ys) = s.emitted xs ++ (s.feedAll xs).emitted ys := by
  induction xs generalizing s with
  | nil => rfl
  | cons line xs ih => rw [List.cons_append, emitted, ih, emitted, feedAll_cons, List.cons_append]

/-- The remarks of the lines come in the order of the lines, and the totals behind them. -/
theorem remarksOfLines_eq (lines : List String) :
    ∃ totals : Totals, remarksOfLines lines =
      Scan.start.emitted (lines.filterMap fun line => kernelLine? line.toList) ++
        totals.remarks := by
  refine ⟨(Scan.start.feedAll (lines.filterMap fun line => kernelLine? line.toList)).totals, ?_⟩
  rw [remarksOfLines, Scan.finish, Scan.remarks_feedAll]
  rfl

theorem ownRemarks_append (before after : List String) (s t : Scan) (own : List Remark)
    (totals : Totals) :
    OwnRemarks before after own
      (s.emitted (before.filterMap fun line => kernelLine? line.toList) ++
        (own ++ t.emitted (after.filterMap fun line => kernelLine? line.toList)) ++
        totals.remarks) := by
  refine ⟨s.emitted (before.filterMap fun line => kernelLine? line.toList),
    t.emitted (after.filterMap fun line => kernelLine? line.toList) ++ totals.remarks, ?_, ?_, ?_⟩
  · simp only [List.append_assoc]
  · rw [kernelCount_emitted, length_kernelLines]
  · rw [kernelCount_append, kernelCount_emitted, kernelCount_totals, length_kernelLines,
      Nat.add_zero]

theorem ownRemarks_of_kernelLine (before after : List String) {line : String} {body : List Char}
    (h : kernelLine? line.toList = some body) :
    ∃ k, k.kind = .kernel ∧
      OwnRemarks before after [k] (remarksOfLines (before ++ line :: after)) := by
  obtain ⟨totals, hremarks⟩ := remarksOfLines_eq (before ++ line :: after)
  simp only [List.filterMap_append, List.filterMap_cons, h, Scan.emitted_append, Scan.emitted]
    at hremarks
  rw [hremarks]
  exact ⟨_, (Scan.saysMessage_remarkOf _ body).kind,
    ownRemarks_append before after _ _ _ totals⟩

theorem ownRemarks_of_other (before after : List String) {line : String}
    (h : kernelLine? line.toList = none) :
    OwnRemarks before after [] (remarksOfLines (before ++ line :: after)) := by
  obtain ⟨totals, hremarks⟩ := remarksOfLines_eq (before ++ line :: after)
  simp only [List.filterMap_append, List.filterMap_cons, h, Scan.emitted_append] at hremarks
  rw [hremarks]
  exact ownRemarks_append before after _ _ [] totals

/-- The scan makes one remark of a line with the tag of the kernel pass, and none of a line with
another tag. -/
theorem ownRemarks_of_passTagOf (before after : List String) {body tag : List Char}
    (h : passTagOf body = some tag) :
    ∃ own, OwnRemarks before after own
        (remarksOfLines (before ++ String.ofList (remarkMark.toList ++ body) :: after)) ∧
      ((kernelTag <:+: tag ∧ ∃ k, own = [k] ∧ k.kind = .kernel) ∨
        (¬ kernelTag <:+: tag ∧ own = [])) := by
  have hline : kernelLine? (String.ofList (remarkMark.toList ++ body)).toList =
      if Text.occursIn kernelTag tag then some body else none := by
    rw [String.toList_ofList, kernelLine?, Text.after?_append]
    simp only [h]
  by_cases htag : Text.occursIn kernelTag tag = true
  · rw [if_pos htag] at hline
    obtain ⟨k, hkind, hown⟩ := ownRemarks_of_kernelLine before after hline
    exact ⟨[k], hown, Or.inl ⟨(Text.occursIn_iff _ _).1 htag, k, rfl, hkind⟩⟩
  · rw [if_neg htag] at hline
    exact ⟨[], ownRemarks_of_other before after hline,
      Or.inr ⟨mt (Text.occursIn_iff _ _).2 htag, rfl⟩⟩

/-! ### Printed lines in a stream -/

/-- The tag of a printed remark is the end of the tag of its line among lines about kernels, and
all of it unless an unclosed bracket stands before it. Then the scan of a stream makes a remark
of the line exactly when the printed tag names the kernel pass. -/
theorem passTagOf_of_parseLine? {cs : List Char} {r : Remark} {tag : String}
    (h : parseLine? cs = some r) (htag : r.metadata.get? "tag" = some (.string tag)) :
    ∃ front found, cs = remarkMark.toList ++ (front ++ tagText tag.toList) ∧
      passTagOf (front ++ tagText tag.toList) = some found ∧ tag.toList <:+ found ∧
      (found = tag.toList ↔ ¬ Unclosed front) ∧
      (¬ Unclosed front → ∀ stream before after,
        Text.lines? stream = some (before ++ String.ofList cs :: after) →
          ∃ own remarks, parse stream = .ok remarks ∧ OwnRemarks before after own remarks ∧
            ((kernelTag <:+: tag.toList ∧ ∃ k, own = [k] ∧ k.kind = .kernel) ∨
              (¬ kernelTag <:+: tag.toList ∧ own = []))) := by
  obtain ⟨hne, hclose, front, rfl⟩ := exists_front_of_parseLine? h htag
  obtain ⟨found, hfound, hsuffix, hall⟩ := exists_passTagOf_tagText front hne hclose
  refine ⟨front, found, rfl, hfound, hsuffix, hall, fun hfront stream before after hlines => ?_⟩
  rw [hall.2 hfront] at hfound
  obtain ⟨own, hown, hkernel⟩ := ownRemarks_of_passTagOf before after hfound
  have hparse : parse stream = .ok (remarksOfLines (before ++
      String.ofList (remarkMark.toList ++ (front ++ tagText tag.toList)) :: after)) := by
    rw [parse, hlines]
  exact ⟨own, _, hparse, hown, hkernel⟩

/-- Before the tag, which names the kernel pass, stands a bracket that is closed. -/
def sharedBody : List Char := "k.c:7:2: loop : cost [x] [-Rpass-missed=kernel-info]".toList

theorem ownRemark_sharedBody :
    ∃ r, parseLine? (remarkMark.toList ++ sharedBody) = some r ∧
      r.metadata.get? "tag" = some (.string "-Rpass-missed=kernel-info") ∧
      ∃ k remarks, k.kind = .kernel ∧
        parse (Text.encode (remarkMark.toList ++ sharedBody)) = .ok remarks ∧
        OwnRemarks [] [] [k] remarks := by
  have hread : (parseLine? (remarkMark.toList ++ sharedBody)).bind
      (fun r => r.metadata.get? "tag") = some (.string "-Rpass-missed=kernel-info") := by rfl
  obtain ⟨r, hr, htag⟩ := Option.bind_eq_some_iff.1 hread
  refine ⟨r, hr, htag, ?_⟩
  obtain ⟨front, found, hline, hfound, -, hall, hstream⟩ := passTagOf_of_parseLine? hr htag
  rw [← List.append_cancel_left hline] at hfound
  have hwhole : passTagOf sharedBody = some "-Rpass-missed=kernel-info".toList := by decide
  have hclosed : ¬ Unclosed front := hall.1 (Option.some.inj (hfound.symm.trans hwhole))
  have hlines : Text.lines? (Text.encode (remarkMark.toList ++ sharedBody)) =
      some ([] ++ String.ofList (remarkMark.toList ++ sharedBody) :: []) := by
    have hone : Text.textLines (remarkMark.toList ++ sharedBody) =
        [remarkMark.toList ++ sharedBody] := by decide
    rw [Text.lines?_encode, hone]
    rfl
  obtain ⟨own, remarks, hparse, hown, ⟨-, k, rfl, hkind⟩ | ⟨hnot, -⟩⟩ :=
    hstream hclosed _ _ _ hlines
  · exact ⟨k, remarks, hkind, hparse, hown⟩
  · exact absurd ((Text.occursIn_iff _ _).1 (by decide)) hnot

end BuildRemarks.Kernel
