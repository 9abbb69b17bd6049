import BuildRemarks.Proofs.Kernel.ScanRun

/-!
# Lines with a pass tag behind them

A pass tag behind a line is taken off with all the blanks before it, those that end the line
included. The scan does not see blanks at the end of a line, so a line with a tag behind it does
to a scan what the line alone does, unless a bracket of the line is left open for the tag to close.
-/

namespace BuildRemarks.Kernel

/-! ### Blanks at the end of a line -/

/-- A heading, up to the quote that ends the name of the kernel. -/
def Heading.text (h : Heading) : List Char :=
  h.file ++ ':' :: (h.line ++ ':' :: (h.column ++
    (": in artificial function '".toList ++ h.function)))

theorem Heading.Opens.eq_append {h : Heading} {cs rest : List Char} (ho : h.Opens cs rest) :
    cs = h.text ++ '\'' :: rest := by
  rw [ho.text]
  simp only [Heading.text, List.append_assoc, List.cons_append]

/-- What stands behind a heading may be any text. -/
theorem Heading.Opens.followed {h : Heading} {cs rest : List Char} (ho : h.Opens cs rest)
    (other : List Char) : h.Opens (h.text ++ '\'' :: other) other :=
  { ho with text := by simp only [Heading.text, List.append_assoc, List.cons_append] }

theorem read?_trimEnd (cs : List Char) :
    Heading.read? (Text.trimEnd cs) =
      (Heading.read? cs).map fun found => (found.1, Text.trimEnd found.2) := by
  cases hread : Heading.read? cs with
  | some found =>
    obtain ⟨h, rest⟩ := found
    have hopens := Heading.opens_of_read? hread
    rw [hopens.eq_append, Text.trimEnd_append_cons (by decide)]
    exact (hopens.followed (Text.trimEnd rest)).read?
  | none =>
    refine Option.eq_none_iff_forall_ne_some.2 fun found hfound => ?_
    obtain ⟨h, rest⟩ := found
    have hopens := Heading.opens_of_read? hfound
    obtain ⟨trail, -, hcs⟩ := Text.exists_trimEnd_append cs
    -- with the blanks put back the line still has the heading
    rw [hopens.eq_append, List.append_assoc, List.cons_append] at hcs
    have hsome := (hopens.followed (rest ++ trail)).read?
    rw [← hcs, hread] at hsome
    exact absurd hsome (by simp)

theorem splitHeading_of_trimEnd {line other : List Char}
    (h : withoutPassTag line = Text.trimEnd (withoutPassTag other)) :
    splitHeading line = ((splitHeading other).1, Text.trimEnd (splitHeading other).2) := by
  rw [splitHeading, splitHeading, h, read?_trimEnd]
  cases Heading.read? (withoutPassTag other) with
  | none => rfl
  | some found => rfl

theorem messageOf_append_blanks (cs : List Char) {trail : List Char} (h : Text.Blanks trail) :
    messageOf (cs ++ trail) = messageOf cs := by
  have hstay : trail.dropWhile (fun c => c == ',' || c == ':') = trail := by
    cases trail with
    | nil => rfl
    | cons c trail =>
      have hc : (c == ',' || c == ':') = false := by
        rw [Bool.or_eq_false_iff, beq_eq_false_iff_ne, beq_eq_false_iff_ne]
        constructor
        all_goals
          rintro rfl
          exact absurd (h _ List.mem_cons_self) (by decide)
      rw [List.dropWhile_cons, hc]
      rfl
  rw [messageOf, List.dropWhile_append, messageOf]
  split
  · rename_i hempty
    rw [hstay, List.isEmpty_iff.1 hempty]
    exact Text.trim_append_blanks [] h
  · exact Text.trim_append_blanks _ h

theorem messageOf_trimEnd (cs : List Char) : messageOf (Text.trimEnd cs) = messageOf cs := by
  obtain ⟨trail, htrail, hcs⟩ := Text.exists_trimEnd_append cs
  calc messageOf (Text.trimEnd cs) = messageOf (Text.trimEnd cs ++ trail) :=
        (messageOf_append_blanks _ htrail).symm
    _ = messageOf cs := by rw [← hcs]

namespace Scan

/-- A scan sees of a line its heading and its message. -/
theorem feed_congr (s : Scan) {line other : List Char}
    (hheading : (splitHeading line).1 = (splitHeading other).1)
    (hmessage : messageOf (splitHeading line).2 = messageOf (splitHeading other).2) :
    s.feed line = s.feed other := by
  simp only [feed, remarkOf, metricOf?, hheading, hmessage]

/-- A pass tag behind a line changes nothing for a scan, whatever its state. -/
theorem feed_append_tag (s : Scan) {body blanks tag : List Char}
    (hbody : withoutPassTag body = body) (hopen : ¬ Unclosed body)
    (hblanks : Text.Blanks blanks) (hne : tag ≠ []) (hclose : ']' ∉ tag) :
    s.feed (body ++ (blanks ++ '[' :: (tag ++ [']']))) = s.feed body := by
  have htag : withoutPassTag (body ++ (blanks ++ '[' :: (tag ++ [']']))) =
      Text.trimEnd (withoutPassTag body) := by
    rw [hbody, withoutPassTag, splitPassTag_append_tag hne hclose hopen hblanks]
  have hsplit := splitHeading_of_trimEnd htag
  refine s.feed_congr ?_ ?_
  · rw [hsplit]
  · rw [hsplit, messageOf_trimEnd]

/-- The line has closed brackets and ends in a wide blank, and the tag has an open bracket. -/
theorem feed_append_tag_crowdedLine :
    let s := start.feed "k.c:7:2: in artificial function 'k', DirectCalls = 2".toList
    let body := "[a] [b]: DirectCalls = 3\u3000".toList
    let blanks := "\t\u00A0".toList
    let tag := "-Rpass[=kernel-info".toList
    (withoutPassTag body = body ∧ ¬ Unclosed body ∧ Text.Blanks blanks ∧ tag ≠ [] ∧
        ']' ∉ tag) ∧
      s.feed (body ++ (blanks ++ '[' :: (tag ++ [']']))) = s.feed body := by
  intro s body blanks tag
  have hbody : withoutPassTag body = body := by decide
  have hopen : ¬ Unclosed body := by decide
  have hblanks : Text.Blanks blanks := by decide
  have hne : tag ≠ [] := by decide
  have hclose : ']' ∉ tag := by decide
  exact ⟨⟨hbody, hopen, hblanks, hne, hclose⟩,
    s.feed_append_tag hbody hopen hblanks hne hclose⟩

end Scan

end BuildRemarks.Kernel
